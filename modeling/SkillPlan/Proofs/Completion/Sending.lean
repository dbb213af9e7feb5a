import SkillPlan.Completion.Config
import SkillPlan.Machine

/-!
# What backends send

A backend posts one text for a request, and the requests that answers send on have the same text or
none (`complete_posts`). What the text says is read from its value: the conversation, and beside it
what the system says. In the chat format the conversation is every message. In the messages format it
is every message but those of the system, and of these only the last one is kept, so a text of the
system is sent if and only if it is part of the last one (`messages_are_sent`).
-/

namespace SkillPlan

/-! ## Requests that are sent on -/

namespace Http

/-- The requests that come of posting a text: the first has it, and each after it the same or none. -/
structure Posted (body : Option String) (sent : List Request) : Prop where
  first : ∀ q, sent.head? = some q → q.body = body
  rest : ∀ q ∈ sent, q.body = body ∨ q.body = none

namespace Posted

variable {body : Option String} {sent : List Request}

theorem nil (body : Option String) : Posted body [] where
  first q hq := by cases hq
  rest q hq := by cases hq

theorem single {q : Request} (hq : q.body = body) : Posted body [q] where
  first q' hq' := by
    cases hq'
    exact hq
  rest q' hq' := by
    cases List.mem_singleton.mp hq'
    exact .inl hq

/-- A request comes before those that are sent on with its text or without. -/
theorem cons {q : Request} {body' : Option String} (hq : q.body = body)
    (hbody' : body' = body ∨ body' = none) (h : Posted body' sent) : Posted body (q :: sent) where
  first q' hq' := by
    cases hq'
    exact hq
  rest q' hq' := by
    obtain rfl | hq' := List.mem_cons.mp hq'
    · exact .inl hq
    · obtain hsame | hnone := h.rest q' hq'
      · rw [hsame]
        exact hbody'
      · exact .inr hnone

end Posted

theorem body_again (r : Request) (status : Nat) :
    (r.again status).body = r.body ∨ (r.again status).body = none := by
  unfold Request.again
  split
  · exact .inr rfl
  · exact .inl rfl

namespace Network

variable {first : Url} {left : Nat} {r : Request} {fields : List Field} {n : Network}

/-- A request is sent, and that is all or it is sent on with its text or without. -/
theorem follow_cases (first : Url) (left : Nat) (r : Request) (fields : List Field) (n : Network) :
    (n.follow first left r fields).2 = (n.send { r with fields := fields }).2 ∨
      ∃ left' again fields', left = left' + 1 ∧ (again.body = r.body ∨ again.body = none) ∧
        n.follow first left r fields =
          (n.send { r with fields := fields }).2.follow first left' again fields' := by
  rw [follow.eq_def first left r fields n]
  generalize n.send { r with fields := fields } = answered
  obtain ⟨reply, n'⟩ := answered
  cases reply with
  | dropped => exact .inl rfl
  | answered a =>
    simp only
    cases hnext : r.onward? a with
    | none => exact .inl rfl
    | some next =>
      cases left with
      | zero => exact .inl rfl
      | succ left' =>
        -- only here the request goes on, where it was not sent on too often already
        simp only
        split
        · exact .inr ⟨left', { r.again a.status with url := next }, _, rfl, body_again r a.status, rfl⟩
        · exact .inl rfl

/-- What a network is sent when a request is followed: the request, and then what it becomes. -/
theorem sent_follow (first : Url) (left : Nat) (r : Request) (fields : List Field) (n : Network) :
    ∃ q sent, (n.follow first left r fields).2.sent = n.sent ++ q :: sent ∧
      Posted r.body (q :: sent) := by
  induction left generalizing r fields n with
  | zero =>
    obtain hend | ⟨left', again, fields', hleft, -⟩ := follow_cases first 0 r fields n
    · exact ⟨_, [], congrArg sent hend, .single rfl⟩
    · cases hleft
  | succ left ih =>
    obtain hend | ⟨left', again, fields', hleft, hbody, hfollow⟩ :=
      follow_cases first (left + 1) r fields n
    · exact ⟨_, [], congrArg sent hend, .single rfl⟩
    · cases hleft
      obtain ⟨q, rest, hsent, hposted⟩ := ih again fields' (n.send { r with fields := fields }).2
      refine ⟨{ r with fields := fields }, q :: rest, ?_, .cons rfl hbody hposted⟩
      -- the first request was sent before the others
      rw [hfollow, hsent]
      exact List.append_assoc _ _ _

end Network

end Http

namespace Completion

open Http (Network Posted)

/-! ## The text that is posted -/

namespace Config

variable {α : Type}

/-- The body of what a backend posts for a request. -/
def body (c : Config) (r : Request) : Json :=
  if c.service = .anthropic then Messages.requestToJson (r.model.getD c.defaultModel) r
  else Chat.requestToJson (r.model.getD c.defaultModel) r

/-- What came of an exchange: the network was sent the text of the body, or nothing and there is no
    answer. -/
structure Exchanged (body : Json) (w w' : Machine) (requests : List Http.Request)
    (result : Except Failure α) : Prop where
  sent : w'.network.sent = w.network.sent ++ requests
  posted : Posted (some (Json.toText body)) requests
  failed : requests = [] → ∃ f, result = .error f

namespace Exchanged

variable {body : Json} {w w' : Machine} {requests : List Http.Request}

theorem none (body : Json) (w : Machine) (f : Failure) :
    Exchanged body w w [] (.error f : Except Failure α) where
  sent := (List.append_nil _).symm
  posted := .nil _
  failed _ := ⟨f, rfl⟩

/-- What is made of a result does not matter, as long as a failure stays one. -/
theorem map {β : Type} {result : Except Failure α} {result' : Except Failure β}
    (h : Exchanged body w w' requests result) (hfailure : ∀ f, result = .error f → result' = .error f) :
    Exchanged body w w' requests result' where
  sent := h.sent
  posted := h.posted
  failed hnone := by
    obtain ⟨f, hf⟩ := h.failed hnone
    exact ⟨f, hfailure f hf⟩

end Exchanged

theorem body_post {address text : String} {fields : List Http.Field} {q : Http.Request}
    (h : Http.Request.post address fields text = .ok q) : q.body = some text := by
  unfold Http.Request.post at h
  split at h
  · cases h
  · split at h
    · cases h
    · simp only at h
      split at h
      · cases h
      · -- the text is the same whether the address names a user or not
        split at h
        all_goals
          split at h
          · cases h
            rfl
          · cases h

theorem exchange_sends (address : String) (fields : List Http.Field) (body : Json)
    (read : Nat → Json.Raw → Option α) (w : Machine) :
    ∃ requests, Exchanged body w (exchange address fields body read w).2 requests
      (exchange address fields body read w).1 := by
  unfold exchange
  cases hpost : Http.Request.post address fields (Json.toText body) with
  | error detail => exact ⟨[], .none body w _⟩
  | ok q =>
    obtain ⟨q', requests, hsent, hposted⟩ :=
      Network.sent_follow q.url Http.maxOnward q q.fields w.network
    rw [body_post hpost] at hposted
    exact ⟨q' :: requests, hsent, hposted, nofun⟩

/-- A backend posts the body of a request, or posts nothing and fails. -/
theorem complete_posts (c : Config) (r : Request) (w : Machine) :
    ∃ requests, Exchanged (c.body r) w (c.backend.complete r w).2 requests
      (c.backend.complete r w).1 := by
  unfold backend body
  split
  · change ∃ requests, Exchanged _ w (c.completeMessages r w).2 requests (c.completeMessages r w).1
    unfold completeMessages
    cases c.apiKey with
    | none => exact ⟨[], .none _ w _⟩
    | some key =>
      obtain ⟨requests, hexchanged⟩ := exchange_sends (c.address "/messages")
        (("x-api-key", key) :: jsonField :: c.headers)
        (Messages.requestToJson (r.model.getD c.defaultModel) r) Messages.Answer.ofRaw? w
      refine ⟨requests, ?_⟩
      simp only
      generalize exchange _ _ _ Messages.Answer.ofRaw? w = outcome at hexchanged ⊢
      obtain ⟨result, w'⟩ := outcome
      cases result with
      | ok answer => exact hexchanged.map nofun
      | error f => exact hexchanged.map fun f' hf => by cases hf; rfl
  · change ∃ requests, Exchanged _ w (c.completeChat r w).2 requests (c.completeChat r w).1
    unfold completeChat
    obtain ⟨requests, hexchanged⟩ := exchange_sends (c.address "/chat/completions") c.chatFields
      (Chat.requestToJson (r.model.getD c.defaultModel) r) Chat.Answer.ofRaw? w
    refine ⟨requests, ?_⟩
    simp only
    generalize exchange _ _ _ Chat.Answer.ofRaw? w = outcome at hexchanged ⊢
    obtain ⟨result, w'⟩ := outcome
    cases result with
    | ok answer => exact hexchanged.map nofun
    | error f => exact hexchanged.map fun f' hf => by cases hf; rfl

end Config

/-! ## What a body says -/

/-- The member of an object under a name. -/
def member? (name : String) : Json → Option Json
  | .obj fields => Json.findField name fields
  | _ => none

/-- Who says what in an entry of a conversation. -/
def spoken? (entry : Json) : Option (String × String) :=
  match member? "role" entry, member? "content" entry with
  | some (.str role), some (.str text) => some (role, text)
  | _, _ => none

/-- Who says what in the conversation of a body, in order. -/
def conversation? (body : Json) : Option (List (String × String)) :=
  match member? "messages" body with
  | some (.arr entries) => entries.mapM spoken?
  | _ => none

/-- What the system says in a body, apart from the conversation. -/
def instructions? (body : Json) : Option String :=
  match member? "system" body with
  | some (.str text) => some text
  | _ => none

/-- A text is part of what the system says in a body. -/
def Instructs (body : Json) (text : String) : Prop :=
  ∃ whole, instructions? body = some whole ∧ text.toList <:+: whole.toList

namespace Message

/-- What a message says. -/
def text (m : Message) : String := m.content.getD ""

/-- Who says what in a message. -/
def said (m : Message) : String × String := (m.role.name, m.text)

end Message

variable {model : String} {r : Request} {m : Message}

theorem mapM_spoken? {write : Message → Json} {ms : List Message}
    (h : ∀ m ∈ ms, spoken? (write m) = some m.said) :
    (ms.map write).mapM spoken? = some (ms.map Message.said) := by
  induction ms with
  | nil => rfl
  | cons m ms ih =>
    obtain ⟨hm, hms⟩ := List.forall_mem_cons.mp h
    rw [List.map_cons, List.mapM_cons, hm, ih hms]
    rfl

namespace Chat

theorem spoken?_messageToJson (h : m.content.isSome) : spoken? (messageToJson m) = some m.said := by
  obtain ⟨text, htext⟩ := Option.isSome_iff_exists.mp h
  simp [messageToJson, Message.said, Message.text, htext, spoken?, member?, Json.findField]

theorem conversation?_requestToJson (h : ∀ m ∈ r.messages, m.content.isSome) :
    conversation? (requestToJson model r) = some (r.messages.map Message.said) := by
  have hentries : member? "messages" (requestToJson model r) =
      some (.arr (r.messages.map messageToJson)) := by
    simp [member?, requestToJson, Json.findField]
  unfold conversation?
  rw [hentries]
  exact mapM_spoken? fun m hm => spoken?_messageToJson (h m hm)

end Chat

namespace Messages

theorem spoken?_messageToJson (h : m.role ≠ .system) : spoken? (messageToJson m) = some m.said := by
  have hrole : roleName m.role = m.role.name := by
    cases hm : m.role with
    | system => exact absurd hm h
    | user => rfl
    | assistant => rfl
  simp [messageToJson, Message.said, Message.text, hrole, spoken?, member?, Json.findField]

theorem conversation?_requestToJson :
    conversation? (requestToJson model r) = some ((conversation r.messages).map Message.said) := by
  have hentries : member? "messages" (requestToJson model r) =
      some (.arr ((conversation r.messages).map messageToJson)) := by
    simp [member?, requestToJson, Json.findField]
  unfold conversation?
  rw [hentries]
  apply mapM_spoken?
  intro m hm
  exact spoken?_messageToJson (of_decide_eq_true (List.mem_filter.mp hm).2)

theorem instructions?_requestToJson :
    instructions? (requestToJson model r) = systemText r.messages := by
  -- whether there is a text of the system, and which fields come after it
  cases hsystem : systemText r.messages <;> cases htemperature : r.temperature <;>
    cases hstop : r.stop <;>
      simp [instructions?, member?, requestToJson, Json.findField, hsystem, htemperature, hstop]

/-- Nothing but the last message of the system counts. -/
theorem systemText_append {before after : List Message} (hm : m.role = .system)
    (hafter : ∀ m ∈ after, m.role ≠ .system) :
    systemText (before ++ m :: after) = m.content := by
  have hrest : after.filter (·.role = .system) = [] := by
    simpa [List.filter_eq_nil_iff] using hafter
  simp [systemText, hm, hrest]

end Messages

/-- The system says what it says, so a text is part of it or is not. -/
theorem instructs_iff {body : Json} {whole text : String} (h : instructions? body = some whole) :
    Instructs body text ↔ text.toList <:+: whole.toList := by
  constructor
  · rintro ⟨whole', hwhole', hpart⟩
    cases h.symm.trans hwhole'
    exact hpart
  · exact fun hpart => ⟨whole, h, hpart⟩

/-! ## Messages in what is sent -/

/-- A backend posts one body for messages that all have content, unless it fails before. In the chat
    format this body has every message with its role, in order. In the messages format it has so every
    message but those of the system; what the system says in it is the last message of the system,
    wherever that stands, so another one is in it if and only if the last one says the same and
    more. -/
theorem messages_are_sent (c : Config) (r : Request) (hcontent : ∀ m ∈ r.messages, m.content.isSome)
    (w : Machine) :
    (∃ requests, (c.backend.complete r w).2.network.sent = w.network.sent ++ requests ∧
      Posted (some (Json.toText (c.body r))) requests ∧
      (requests = [] → ∃ f, (c.backend.complete r w).1 = .error f)) ∧
    (c.service ≠ .anthropic → conversation? (c.body r) = some (r.messages.map Message.said)) ∧
    (c.service = .anthropic →
      conversation? (c.body r) =
        some ((r.messages.filter (·.role ≠ .system)).map Message.said) ∧
      ∀ before last after, r.messages = before ++ last :: after → last.role = .system →
        (∀ m ∈ after, m.role ≠ .system) → instructions? (c.body r) = some last.text ∧
          ∀ m ∈ before, m.role = .system →
            (Instructs (c.body r) m.text ↔ m.text.toList <:+: last.text.toList)) := by
  obtain ⟨requests, hexchanged⟩ := c.complete_posts r w
  refine ⟨⟨requests, hexchanged.sent, hexchanged.posted, hexchanged.failed⟩, ?_, ?_⟩
  · intro hservice
    unfold Config.body
    rw [if_neg hservice]
    exact Chat.conversation?_requestToJson hcontent
  · intro hservice
    unfold Config.body
    rw [if_pos hservice]
    refine ⟨Messages.conversation?_requestToJson, ?_⟩
    intro before last after hmessages hlast hafter
    obtain ⟨text, htext⟩ := Option.isSome_iff_exists.mp (hcontent last (by simp [hmessages]))
    have hwhole : instructions? (Messages.requestToJson (r.model.getD c.defaultModel) r) =
        some last.text := by
      rw [Messages.instructions?_requestToJson, hmessages, Messages.systemText_append hlast hafter,
        Message.text, htext]
      rfl
    exact ⟨hwhole, fun m _ _ => instructs_iff hwhole⟩

/-- A message of the system after the conversation has begun, and an earlier one that it repeats. -/
theorem messages_are_sent_repeated :
    let c := { Config.anthropic "key" with baseUrl := some "http://lan/v1" }
    let r : Request := { messages := [⟨.system, some "be terse"⟩, ⟨.user, some "hi"⟩,
      ⟨.assistant, some "hello"⟩, ⟨.system, some "be terse, in French"⟩, ⟨.user, some "again"⟩] }
    let w : Machine := {}
    (∀ m ∈ r.messages, m.content.isSome) ∧ (c.backend.complete r w).2.network.sent.length = 1 ∧
      (∃ requests, (c.backend.complete r w).2.network.sent = w.network.sent ++ requests ∧
        Posted (some (Json.toText (c.body r))) requests) ∧
      conversation? (c.body r) = some [("user", "hi"), ("assistant", "hello"), ("user", "again")] ∧
      instructions? (c.body r) = some "be terse, in French" ∧ Instructs (c.body r) "be terse" := by
  intro c r w
  have hcontent : ∀ m ∈ r.messages, m.content.isSome := by decide
  obtain ⟨⟨requests, hsent, hposted, -⟩, -, hmessages⟩ := messages_are_sent c r hcontent w
  obtain ⟨hconversation, hsystem⟩ := hmessages rfl
  obtain ⟨hwhole, hpart⟩ := hsystem [⟨.system, some "be terse"⟩, ⟨.user, some "hi"⟩,
    ⟨.assistant, some "hello"⟩] ⟨.system, some "be terse, in French"⟩ [⟨.user, some "again"⟩] rfl rfl
    (by decide)
  have hterse := (hpart ⟨.system, some "be terse"⟩ (by decide) rfl).mpr
    ⟨[], ", in French".toList, rfl⟩
  exact ⟨hcontent, by decide +kernel, ⟨requests, hsent, hposted⟩, hconversation, hwhole, hterse⟩

/-- Two messages of the system, of which the first is not in what is posted. -/
theorem first_instruction_lost :
    let c := { Config.anthropic "key" with baseUrl := some "http://lan/v1" }
    let r : Request := { messages := [⟨.system, some "be terse"⟩,
      ⟨.system, some "answer in French"⟩, ⟨.user, some "hi"⟩] }
    let w : Machine := {}
    (c.backend.complete r w).2.network.sent.map (·.body) = [some (Json.toText (c.body r))] ∧
      instructions? (c.body r) = some "answer in French" ∧ ¬Instructs (c.body r) "be terse" := by
  intro c r w
  have hwhole : instructions? (c.body r) = some "answer in French" := by decide +kernel
  refine ⟨by decide +kernel, hwhole, ?_⟩
  rw [instructs_iff hwhole]
  decide +kernel

end Completion

end SkillPlan
