import SkillPlan.Proofs.Completion.Sending
import SkillPlan.Proofs.Planner.Catalog
import SkillPlan.Proofs.Text
import SkillPlan.PromptFunction

/-!
# Advice after a refusal

When a service answers with another status than success, the backend fails, and the error that
reaches a caller says whether trying again may help. It says so of every such failure but that of a
key that is not accepted (`isRetryable_ofCompletion`): a request that the service cannot use fails like
an inference that went wrong. How long to wait is passed on where the service was asked too often
(`advice_of_answer`).
-/

namespace SkillPlan

open Text (fold dropWhile_run)

/-! ## How long to wait -/

namespace Http

/-- The answer asks to wait for some seconds: the first of its fields of this name is their number
    in base 10, one of 64 bits, with space around it or not. -/
def Answer.AsksToWait (a : Answer) (seconds : Nat) : Prop :=
  ∃ before name space digits space' after,
    a.fields = before ++ (name, String.ofList (space ++ digits ++ space')) :: after ∧
    fold name = "retry-after" ∧ (∀ f ∈ before, fold f.1 ≠ "retry-after") ∧
    (∀ c ∈ space ++ space', c = ' ' ∨ c = '\t') ∧ digits ≠ [] ∧
    (∀ c ∈ digits, c.isDigit = true) ∧ Nat.ofDigitChars 10 digits 0 = seconds ∧
    seconds < Nat.pow 2 64

theorem field?_of_first {before after : List Field} {name value key : String}
    (hname : fold name = key) (hbefore : ∀ f ∈ before, fold f.1 ≠ key) :
    field? (before ++ (name, value) :: after) key =
      some (String.ofList (withoutSpace value.toList)) := by
  have hnone : (before.map sentField).filter (·.1 = key) = [] := by
    rw [List.filter_eq_nil_iff]
    intro f hf
    obtain ⟨f', hf', rfl⟩ := List.mem_map.mp hf
    have hother : (sentField f').1 ≠ key := hbefore f' hf'
    simpa using hother
  have hfirst : (sentField (name, value)).1 = key := hname
  rw [field?, values, List.map_append, List.filter_append, hnone, List.nil_append, List.map_cons,
    List.filter_cons_of_pos (by simpa using hfirst)]
  rfl

theorem withoutSpace_append {space cs space' : List Char}
    (hspace : ∀ c ∈ space ++ space', c = ' ' ∨ c = '\t')
    (hcs : ∀ c ∈ cs, c ≠ ' ' ∧ c ≠ '\t') (hne : cs ≠ []) :
    withoutSpace (space ++ cs ++ space') = cs := by
  obtain ⟨hbefore, hafter⟩ := List.forall_mem_append.mp hspace
  unfold withoutSpace
  simp only
  -- once from the front and once from behind, where the space is in front of what is reversed
  rw [List.append_assoc, dropWhile_run (by simpa using hbefore), List.reverse_append,
    dropWhile_run (by simpa using hafter), List.reverse_reverse]
  · intro c hc
    obtain ⟨hblank, htab⟩ := hcs c (List.mem_reverse.mp (List.mem_of_mem_head? hc))
    simp [hblank, htab]
  · intro c hc
    rw [List.head?_append_of_ne_nil _ hne] at hc
    obtain ⟨hblank, htab⟩ := hcs c (List.mem_of_mem_head? hc)
    simp [hblank, htab]

/-! ### Digits -/

section Digits

variable {digits : List Char}

theorem isPlainValueChar_of_isDigit {c : Char} (h : c.isDigit = true) :
    isPlainValueChar c = true ∧ Text.isBlank c = false := by
  have hrange : 48 ≤ c.toNat ∧ c.toNat ≤ 57 := by
    simpa [Char.isDigit, UInt32.le_iff_toNat_le] using h
  constructor
  · simp [isPlainValueChar, isValueChar]
    omega
  · simp [Text.isBlank]
    omega

theorem decimal?_of_digits (h : ∀ c ∈ digits, c.isDigit = true) :
    decimal? digits = some (Nat.ofDigitChars 10 digits 0) := by
  have hfold : ∀ n, (digits.map fun c => c.toNat - '0'.toNat).foldl (fun n d => n * 10 + d) n =
      Nat.ofDigitChars 10 digits n := by
    intro n
    rw [List.foldl_map, Nat.ofDigitChars]
    simp only [Nat.mul_comm]
  rw [decimal?, if_pos (List.all_eq_true.mpr h), ofDigits, hfold]

theorem word?_of_digits (hne : digits ≠ []) (h : ∀ c ∈ digits, c.isDigit = true)
    (hlt : Nat.ofDigitChars 10 digits 0 < Nat.pow 2 64) :
    word? digits = some (Nat.ofDigitChars 10 digits 0) := by
  cases digits with
  | nil => exact absurd rfl hne
  | cons c cs =>
    have hplus : c ≠ '+' := by
      rintro rfl
      exact absurd (h '+' List.mem_cons_self) (by decide)
    unfold word?
    split
    · rename_i hsign
      exact absurd (List.cons.inj hsign).1 hplus
    · rw [if_neg (by simp), decimal?_of_digits h, Option.bind_some, if_pos hlt]

end Digits

theorem Answer.AsksToWait.retryAfter? {a : Answer} {seconds : Nat} (h : a.AsksToWait seconds) :
    a.retryAfter? = some seconds := by
  obtain ⟨before, name, space, digits, space', after, hfields, hname, hbefore, hspace, hne, hdigits,
    rfl, hlt⟩ := h
  -- digits pass the check of the value, and there is no white space among them to trim
  have hplain := fun c hc => isPlainValueChar_of_isDigit (hdigits c hc)
  have hvalue : field? a.fields "retry-after" = some (String.ofList digits) := by
    rw [hfields, field?_of_first hname hbefore, String.toList_ofList,
      withoutSpace_append hspace _ hne]
    intro c hc
    constructor <;> rintro rfl
    · exact absurd (hdigits _ hc) (by decide)
    · exact absurd (hdigits _ hc) (by decide)
  have htrim : Text.trim (String.ofList digits) = String.ofList digits := by
    refine Text.trim_eq_self (fun c hc => ?_) fun c hc => ?_
    · rw [String.toList_ofList] at hc
      exact (hplain c (List.mem_of_mem_head? hc)).2
    · rw [String.toList_ofList] at hc
      exact (hplain c (List.mem_of_mem_getLast? hc)).2
  have hall : (String.ofList digits).toList.all isPlainValueChar = true := by
    rw [String.toList_ofList, List.all_eq_true]
    exact fun c hc => (hplain c hc).1
  rw [Answer.retryAfter?, hvalue, Option.bind_some, if_pos hall, htrim, String.toList_ofList,
    word?_of_digits hne hdigits hlt]

/-- An answer that does not send a request on is the last one. -/
theorem Network.fetch_of_reply {n : Network} {a : Answer}
    (hreply : ∀ sent, n.reply sent = .answered a)
    (hlast : onwardStatuses.contains a.status = false) (r : Request) : (n.fetch r).1 = .ok a := by
  rw [fetch, follow.eq_def]
  simp only [send, hreply, Request.onward?, hlast, Bool.false_eq_true, ↓reduceIte]

end Http

/-! ## Notes and advice of errors -/

namespace Error

variable {e : Error} {key value : String}

/-- A note that is there is found before those that are added. -/
theorem noteValue?_note_of_eq_some (h : e.noteValue? key = some value) (key' value' : String) :
    (e.note key' value').noteValue? key = some value := by
  have hlookup : e.context.lookup key = some value := h
  rw [noteValue?, note, List.lookup_append, hlookup, Option.some_or]

theorem noteValue?_during_of_eq_some (h : e.noteValue? key = some value) (operation : String) :
    (e.during operation).noteValue? key = some value := by
  unfold during
  split
  · exact h
  · exact noteValue?_note_of_eq_some h _ _

theorem isRetryable_during (e : Error) (operation : String) :
    (e.during operation).isRetryable = e.isRetryable := by
  unfold during
  split <;> rfl

end Error

namespace Completion

open Http (Network)

/-! ## Failures -/

/-- Every failure is taken for one that may pass, but for a key that is not accepted and for a
    panic. -/
theorem isRetryable_ofCompletion (f : Failure) : (Error.ofCompletion f).isRetryable = true ↔
    f ≠ .authenticationFailed ∧ ∀ message, f ≠ .panicked message := by
  cases f with
  | authenticationFailed => exact ⟨fun h => absurd h (by decide), fun h => absurd rfl h.1⟩
  | panicked message => exact ⟨nofun, fun h => absurd rfl (h.2 message)⟩
  | api status body =>
    -- a status from 500 on makes an error of another kind, which is taken for one that may pass too
    refine ⟨fun _ => ⟨nofun, nofun⟩, fun _ => ?_⟩
    unfold Error.ofCompletion
    by_cases hserver : 500 ≤ status
    · simp only [if_pos hserver]
      rfl
    · simp only [if_neg hserver]
      rfl
  | rateLimited wait => cases wait <;> exact ⟨fun _ => ⟨nofun, nofun⟩, fun _ => rfl⟩
  | _ => exact ⟨fun _ => ⟨nofun, nofun⟩, fun _ => rfl⟩

theorem ofStatus_eq_authenticationFailed_iff {status : Nat} {wait : Option Nat} {body : String} :
    Failure.ofStatus status wait body = .authenticationFailed ↔ status = 401 ∨ status = 403 := by
  unfold Failure.ofStatus
  split_ifs <;> simp_all

theorem ofStatus_ne_panicked (status : Nat) (wait : Option Nat) (body message : String) :
    Failure.ofStatus status wait body ≠ .panicked message := by
  unfold Failure.ofStatus
  split_ifs <;> nofun

theorem noteValue?_rateLimited (seconds : Nat) :
    (Error.ofCompletion (.rateLimited (some seconds))).noteValue? "retry_after" =
      some (toString seconds) := rfl

/-- What an error says about trying again after an answer other than success. -/
structure Advises (a : Http.Answer) (e : Error) : Prop where
  /-- Trying again is advised unless the key was not accepted. -/
  retryable : e.isRetryable = true ↔ a.status ≠ 401 ∧ a.status ≠ 403
  /-- So the advice fits where the key was not accepted, where the service was asked too often and
      where it failed itself, and nowhere else. -/
  fits : (e.isRetryable = true ↔ a.status = 429 ∨ 500 ≤ a.status) ↔
    a.status = 401 ∨ a.status = 403 ∨ a.status = 429 ∨ 500 ≤ a.status
  /-- A service that was asked too often may say how long to wait. -/
  wait : a.status = 429 → ∀ seconds, a.AsksToWait seconds →
    e.noteValue? "retry_after" = some (toString seconds)

namespace Advises

variable {a : Http.Answer} {e : Error}

theorem ofStatus (a : Http.Answer) :
    Advises a (.ofCompletion (.ofStatus a.status a.retryAfter? a.text)) := by
  have hretryable :
      (Error.ofCompletion (.ofStatus a.status a.retryAfter? a.text)).isRetryable = true ↔
        a.status ≠ 401 ∧ a.status ≠ 403 := by
    rw [isRetryable_ofCompletion, ne_eq, ofStatus_eq_authenticationFailed_iff, not_or]
    exact and_iff_left (ofStatus_ne_panicked _ _ _)
  refine ⟨hretryable, ?_, fun hstatus seconds hasks => ?_⟩
  · rw [hretryable]
    omega
  · have hfailure :
        Failure.ofStatus a.status a.retryAfter? a.text = .rateLimited (some seconds) := by
      rw [hstatus, hasks.retryAfter?]
      rfl
    rw [hfailure, noteValue?_rateLimited]

theorem during (h : Advises a e) (operation : String) : Advises a (e.during operation) := by
  obtain ⟨hretryable, hfits, hwait⟩ := h
  rw [← Error.isRetryable_during e operation] at hretryable hfits
  exact ⟨hretryable, hfits, fun hstatus seconds hasks =>
    Error.noteValue?_during_of_eq_some (hwait hstatus seconds hasks) operation⟩

theorem note (h : Advises a e) (key value : String) : Advises a (e.note key value) :=
  ⟨h.retryable, h.fits, fun hstatus seconds hasks =>
    Error.noteValue?_note_of_eq_some (h.wait hstatus seconds hasks) key value⟩

end Advises

/-! ## Answers to backends -/

variable {α W : Type} [Holds Network W] {c : Config} {r : Request} {w : W} {a : Http.Answer}

namespace Config

/-- Where a backend posts, and with which fields. The messages format needs a key. -/
def posting? (c : Config) : Option (String × List Http.Field) :=
  if c.service = .anthropic then
    c.apiKey.map fun key => (c.address "/messages", ("x-api-key", key) :: jsonField :: c.headers)
  else some (c.address "/chat/completions", c.chatFields)

/-- What a backend posts for a request is answered so, in the end if it is sent on. -/
def IsAnswered (c : Config) (r : Request) (w : W) (a : Http.Answer) : Prop :=
  ∃ address fields q, c.posting? = some (address, fields) ∧
    Http.Request.post address fields (Json.toText (c.body r)) = .ok q ∧
    ((Holds.get w : Network).fetch q).1 = .ok a

theorem exchange_of_refused {address : String} {fields : List Http.Field} {body : Json}
    (read : Nat → Json.Raw → Option α) {q : Http.Request}
    (hpost : Http.Request.post address fields (Json.toText body) = .ok q)
    (hfetch : ((Holds.get w : Network).fetch q).1 = .ok a) (hrefused : a.isSuccess = false) :
    ∃ w', exchange address fields body read w =
      (.error (.ofStatus a.status a.retryAfter? a.text), w') := by
  unfold exchange
  rw [hpost]
  simp only [hfetch, ofAnswer, hrefused, Bool.false_eq_true, ↓reduceIte]
  exact ⟨_, rfl⟩

/-- A backend that is refused fails with what the status stands for. -/
theorem complete_of_refused (h : c.IsAnswered r w a) (hrefused : a.isSuccess = false) :
    ∃ w', c.backend.complete r w = (.error (.ofStatus a.status a.retryAfter? a.text), w') := by
  obtain ⟨address, fields, q, hposting, hpost, hfetch⟩ := h
  unfold posting? at hposting
  unfold body at hpost
  unfold backend
  -- the two formats differ in where they post and how they read, and a refusal is not read
  by_cases hservice : c.service = .anthropic
  · rw [if_pos hservice] at hposting hpost
    obtain ⟨key, hkey, hat⟩ := Option.map_eq_some_iff.mp hposting
    cases hat
    obtain ⟨w', hexchange⟩ := exchange_of_refused Messages.Answer.ofRaw? hpost hfetch hrefused
    refine ⟨w', ?_⟩
    simp only [if_pos hservice, completeMessages, hkey, hexchange]
  · rw [if_neg hservice] at hposting hpost
    cases hposting
    obtain ⟨w', hexchange⟩ := exchange_of_refused Chat.Answer.ofRaw? hpost hfetch hrefused
    refine ⟨w', ?_⟩
    simp only [if_neg hservice, completeChat, hexchange]

/-! ### Networks with one answer -/

/-- Where a text can be posted, any other one can. -/
theorem post_withBody {address text : String} {fields : List Http.Field} {q : Http.Request}
    (h : Http.Request.post address fields text = .ok q) (text' : String) :
    Http.Request.post address fields text' = .ok { q with body := some text' } := by
  have hmap : Http.Request.post address fields text' =
      (Http.Request.post address fields text).map fun q => { q with body := some text' } := by
    unfold Http.Request.post
    cases Http.Url.ofText? address with
    | none => rfl
    | some url =>
      simp only
      cases url.credentials? <;> split_ifs <;> rfl
  rw [hmap, h]
  rfl

/-- Where every request gets the same answer, one that sends none on, a backend gets it whatever it
    posts. -/
theorem isAnswered_of_reply {address : String} {fields : List Http.Field}
    (hposting : c.posting? = some (address, fields))
    (hpost : (Http.Request.post address fields "").isOk = true)
    (hreply : ∀ sent, (Holds.get w : Network).reply sent = .answered a)
    (hlast : Http.onwardStatuses.contains a.status = false) (r : Request) :
    c.IsAnswered r w a := by
  cases hq : Http.Request.post address fields "" with
  | error detail =>
    rw [hq] at hpost
    cases hpost
  | ok q =>
    exact ⟨address, fields, _, hposting, post_withBody hq _, Network.fetch_of_reply hreply hlast _⟩

end Config

/-- A prompt is not completed where its request is not. -/
theorem Backend.completeText_of_error {W : Type} {b : Backend W} {prompt : String} {s : Settings}
    {w w' : W} {f : Failure} (h : b.complete (s.request prompt) w = (.error f, w')) :
    b.completeText prompt s w = (.error f, w') := by
  unfold completeText
  rw [h]

end Completion

/-! ## Advice to callers -/

open Completion (Advises Config)

variable {W : Type} [Holds Http.Network W] {c : Config} {w : W} {a : Http.Answer}

namespace PromptFunction

theorem advises_invoke {f : PromptFunction W} {s : Services W} {b : Bag}
    (hbackend : f.backend.or s.completion = some c.backend)
    (hanswered : c.IsAnswered (f.settings.request (f.prompt b)) w a)
    (hrefused : a.isSuccess = false) :
    ∃ e, (f.toFunction.invoke s b w).1 = .error e ∧ Advises a e := by
  obtain ⟨w', hcomplete⟩ := Config.complete_of_refused hanswered hrefused
  have htext := Completion.Backend.completeText_of_error hcomplete
  refine ⟨f.failed _, ?_, ((Advises.ofStatus a).during _).note _ _⟩
  simp only [toFunction, hbackend, htext]

end PromptFunction

namespace Planner

theorem advises_createPlan {o : Options} {r : Registry W} {goal : String}
    (hgoal : Text.isAllBlank goal = false)
    (hanswered : c.IsAnswered (o.settings.request (promptFor o r goal)) w a)
    (hrefused : a.isSuccess = false) :
    ∃ e, (createPlan o r c.backend goal w).1 = .error e ∧ Advises a e := by
  obtain ⟨w', hcomplete⟩ := Config.complete_of_refused hanswered hrefused
  have htext := Completion.Backend.completeText_of_error hcomplete
  refine ⟨_, ?_, ((Advises.ofStatus a).during "planner::create_plan").note "goal" goal⟩
  simp only [createPlan, hgoal, Bool.false_eq_true, ↓reduceIte, htext]

end Planner

namespace Completion

/-- A prompt function and a planner whose request gets an answer other than success fail, and the
    error has the advice that goes with the answer: trying again may help unless the key was not
    accepted, and where the service was asked too often, after as long as it said. So the advice is
    to try again as well where the request itself was refused. -/
theorem advice_of_answer (hrefused : a.isSuccess = false) :
    (∀ (f : PromptFunction W) (s : Services W) (b : Bag),
      f.backend.or s.completion = some c.backend →
      c.IsAnswered (f.settings.request (f.prompt b)) w a →
      ∃ e, (f.toFunction.invoke s b w).1 = .error e ∧ Advises a e) ∧
    ∀ (o : Planner.Options) (r : Registry W) (goal : String), Text.isAllBlank goal = false →
      c.IsAnswered (o.settings.request (Planner.promptFor o r goal)) w a →
      ∃ e, (Planner.createPlan o r c.backend goal w).1 = .error e ∧ Advises a e :=
  ⟨fun _ _ _ hbackend hanswered => PromptFunction.advises_invoke hbackend hanswered hrefused,
    fun _ _ _ hgoal hanswered => Planner.advises_createPlan hgoal hanswered hrefused⟩

/-- A service that is asked too often and says how long to wait. -/
theorem advice_of_answer_too_often :
    let c := Config.custom "http://lan/v1" "model"
    let a : Http.Answer := ⟨429, [("date", "today"), ("Retry-After", " 120 ")], some []⟩
    let w : Machine := { network := ⟨fun _ => .answered a, []⟩ }
    let f : PromptFunction Machine := .ofTemplate "Text" "Shorten" "Shorten: \x7b\x7b$input\x7d\x7d"
    a.isSuccess = false ∧ a.AsksToWait 120 ∧
      (∃ e, (f.toFunction.invoke { completion := some c.backend } ∅ w).1 = .error e ∧
        e.isRetryable = true ∧ e.noteValue? "retry_after" = some "120") ∧
      ∃ e, (Planner.createPlan {} (.ofList []) c.backend "note it" w).1 = .error e ∧
        e.isRetryable = true ∧ e.noteValue? "retry_after" = some "120" := by
  intro c a w f
  have hrefused : a.isSuccess = false := by decide
  have hasks : a.AsksToWait 120 := by
    have hdigits : ['1', '2', '0'].all Char.isDigit = true := by decide
    exact ⟨[("date", "today")], "Retry-After", [' '], ['1', '2', '0'], [' '], [], rfl, by decide,
      by decide, by simp, by simp, List.all_eq_true.mp hdigits, by decide, by decide⟩
  have hanswered : ∀ r, c.IsAnswered r w a :=
    Config.isAnswered_of_reply rfl (by decide +kernel) (fun _ => rfl) (by decide)
  obtain ⟨hfunction, hplanner⟩ := advice_of_answer (c := c) (w := w) hrefused
  have hadvice : ∀ e, Advises a e →
      e.isRetryable = true ∧ e.noteValue? "retry_after" = some "120" := by
    intro e he
    exact ⟨he.retryable.mpr (by decide), he.wait rfl 120 hasks⟩
  obtain ⟨e, herror, he⟩ := hfunction f { completion := some c.backend } ∅ rfl (hanswered _)
  obtain ⟨e', herror', he'⟩ := hplanner {} (.ofList []) "note it" (by decide +kernel) (hanswered _)
  exact ⟨hrefused, hasks, ⟨e, herror, hadvice e he⟩, e', herror', hadvice e' he'⟩

/-- A request that the service cannot use is not one to make again, but the error says that it may
    help. -/
theorem advice_of_answer_bad_request :
    let c := Config.custom "http://lan/v1" "model"
    let a : Http.Answer := ⟨400, [], some []⟩
    let w : Machine := { network := ⟨fun _ => .answered a, []⟩ }
    ¬ (a.status = 429 ∨ 500 ≤ a.status) ∧
      ∃ e, (Planner.createPlan {} (.ofList []) c.backend "note it" w).1 = .error e ∧
        e.isRetryable = true := by
  intro c a w
  have hgoal : Text.isAllBlank "note it" = false := by decide +kernel
  have hanswered : ∀ r, c.IsAnswered r w a :=
    Config.isAnswered_of_reply rfl (by decide +kernel) (fun _ => rfl) (by decide)
  obtain ⟨e, herror, he⟩ := Planner.advises_createPlan hgoal (hanswered _) (by decide)
  exact ⟨by decide, e, herror, he.retryable.mpr (by decide)⟩

end Completion

end SkillPlan
