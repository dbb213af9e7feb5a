import SkillPlan.Completion.Wire.Messages
import SkillPlan.Proofs.Json.Decode

/-!
# Replies in the messages format

What a reply is read as, told by what stands in its body. A block is of the type that it names, and it
has a text if that is the type of texts (`Block.stands_of_ofRaw?`). So the content of the response is the
texts of just these blocks, in order, and the numbers of tokens are those of the body. Their sum has
to fit into a word: there is no response otherwise (`reply_converted`).
-/

namespace SkillPlan.Completion.Messages

open Json (Raw asString? asWord? wordBound)

/-! ## Blocks in a body -/

/-- The type that a block names. -/
def typeOf? (x : Raw) : Option String := (x.member? ["type", "text"] "type").bind asString?

/-- The text that stands in a block. -/
def textOf? (x : Raw) : Option String := (x.member? ["type", "text"] "text").bind asString?

/-- The texts of the blocks of that type, one after the other. -/
def textsOf (items : List Raw) : String :=
  String.join ((items.filter fun x => typeOf? x = some "text").filterMap textOf?)

/-- What stands in a body for a block that was read. -/
def Block.Stands (x : Raw) : Block → Prop
  | .text s => typeOf? x = some "text" ∧ textOf? x = some s
  | .other => ∃ type, typeOf? x = some type ∧ type ≠ "text"

variable {levels : Nat} {x : Raw} {b : Block} {bs : List Block} {items : List Raw}

/-- The type of an object is taken from where it stands, and the text among the rest from where that
    stands. -/
theorem splitType?_eq_some {fields : List (List Char × Raw)} {type : Option String}
    {rest : List (String × Json)} (h : splitType? levels fields = some (type, rest)) :
    (Raw.valueOf? "type" fields).bind asString? = type ∧
      rest.lookup "text" = (Raw.valueOf? "text" fields).bind (Json.ofRaw? levels) := by
  induction fields generalizing type rest with
  | nil =>
    cases h
    exact ⟨rfl, rfl⟩
  | cons field fields ih =>
    obtain ⟨key, x⟩ := field
    unfold splitType? at h
    obtain ⟨k, hkey, h⟩ := Option.bind_eq_some_iff.mp h
    rw [Raw.valueOf?_cons hkey, Raw.valueOf?_cons hkey]
    split at h
    · -- the type itself is not among the rest, and does not come again
      rename_i hk
      subst hk
      obtain ⟨type', htype, h⟩ := Option.bind_eq_some_iff.mp h
      obtain ⟨⟨other, rest'⟩, hrest, h⟩ := Option.bind_eq_some_iff.mp h
      simp only at h
      split at h
      · cases h
      · cases h
        exact ⟨htype, (ih hrest).2⟩
    · rename_i hk
      obtain ⟨v, hv, h⟩ := Option.bind_eq_some_iff.mp h
      obtain ⟨⟨type', rest'⟩, hrest, h⟩ := Option.bind_eq_some_iff.mp h
      cases h
      obtain ⟨htype, htext⟩ := ih hrest
      refine ⟨by rw [if_neg hk, htype], ?_⟩
      by_cases hk' : k = "text"
      · subst hk'
        simp [hv]
      · have hne : ("text" == k) = false := by simpa using Ne.symm hk'
        rw [if_neg hk', List.lookup_cons, hne]
        exact htext

theorem lookup_of_filter {name : String} {rest found : List (String × Json)} {e : String × Json}
    (h : rest.filter (·.1 = name) = e :: found) : rest.lookup name = some e.2 := by
  induction rest with
  | nil => cases h
  | cons field rest ih =>
    obtain ⟨k, v⟩ := field
    by_cases hk : k = name
    · rw [List.filter_cons_of_pos (by simpa using hk)] at h
      cases h
      simp [hk]
    · rw [List.filter_cons_of_neg (by simpa using hk)] at h
      have hne : (name == k) = false := by simpa using Ne.symm hk
      rw [List.lookup_cons, hne]
      exact ih h

theorem lookup_of_textAmong? {rest : List (String × Json)} {s : String}
    (h : textAmong? rest = some s) : rest.lookup "text" = some (.str s) := by
  unfold textAmong? at h
  split at h
  · rename_i hfound
    cases h
    exact lookup_of_filter hfound
  · cases h

theorem asString?_of_itemsOfRaw? {y : Raw} {ys : List Raw} {s : String}
    (h : Json.itemsOfRaw? levels (y :: ys) = some [.str s]) : asString? y = some s := by
  rw [Json.itemsOfRaw?] at h
  obtain ⟨v, hv, h⟩ := Option.bind_eq_some_iff.mp h
  obtain ⟨vs, -, h⟩ := Option.bind_eq_some_iff.mp h
  cases h
  exact Json.asString?_of_ofRaw? hv

namespace Block

theorem stands_of_obj {fields : List (List Char × Raw)}
    (h : Block.ofRaw? levels (.obj fields) = some b) : Block.Stands (.obj fields) b := by
  unfold Block.ofRaw? at h
  simp only at h
  split at h
  · cases h
  · obtain ⟨⟨type, rest⟩, hsplit, hrest⟩ := Option.bind_eq_some_iff.mp h
    obtain ⟨htype, htext⟩ := splitType?_eq_some hsplit
    obtain ⟨kind, hkind, hblock⟩ := Option.bind_eq_some_iff.mp hrest
    have hnamed : typeOf? (.obj fields) = some kind := htype.trans hkind
    split at hblock
    · rename_i hk
      obtain ⟨s, hs, hsome⟩ := Option.bind_eq_some_iff.mp hblock
      cases hsome
      -- the text was read as a value, which is a text only where one stands
      rw [lookup_of_textAmong? hs] at htext
      obtain ⟨y, hy, hys⟩ := Option.bind_eq_some_iff.mp htext.symm
      have hmember : Raw.member? ["type", "text"] "text" (.obj fields) = some y := hy
      refine ⟨hk ▸ hnamed, ?_⟩
      unfold textOf?
      rw [hmember]
      exact Json.asString?_of_ofRaw? hys
    · rename_i hk
      cases hblock
      exact ⟨kind, hnamed, hk⟩

theorem stands_of_arr {y : Raw} {ys : List Raw}
    (h : Block.ofRaw? levels (.arr (y :: ys)) = some b) : Block.Stands (.arr (y :: ys)) b := by
  unfold Block.ofRaw? at h
  simp only at h
  split at h
  · cases h
  · obtain ⟨kind, hkind, hrest⟩ := Option.bind_eq_some_iff.mp h
    obtain ⟨items, hitems, hblock⟩ := Option.bind_eq_some_iff.mp hrest
    have hnamed : typeOf? (.arr (y :: ys)) = some kind := hkind
    split at hblock
    · rename_i hk
      split at hblock
      · cases hblock
        refine ⟨hk ▸ hnamed, ?_⟩
        cases ys with
        | nil => cases hitems
        | cons z zs => exact asString?_of_itemsOfRaw? hitems
      · cases hblock
    · rename_i hk
      split at hblock
      · cases hblock
        exact ⟨kind, hnamed, hk⟩
      · cases hblock

/-- A block that was read is what stands in the body. -/
theorem stands_of_ofRaw? (h : Block.ofRaw? levels x = some b) : Block.Stands x b := by
  cases x with
  | obj fields => exact stands_of_obj h
  | arr items =>
    cases items with
    | nil => cases h
    | cons y ys => exact stands_of_arr h
  | null => cases h
  | bool b => cases h
  | num n => cases h
  | str body => cases h

end Block

/-- The texts of the blocks that were read are those in the body. -/
theorem textOfBlocks_eq (h : List.Forall₂ Block.Stands items bs) : textOfBlocks bs = textsOf items := by
  unfold textOfBlocks textsOf
  congr 1
  induction h with
  | nil => rfl
  | @cons x b items bs hb _ ih =>
    cases b with
    | text s =>
      obtain ⟨htype, htext⟩ := hb
      simp [htype, htext, ih]
    | other =>
      obtain ⟨type, htype, hne⟩ := hb
      simp [htype, hne, ih]

/-! ## Bodies -/

/-- The names of the fields of a reply. -/
def replyNames : List String := ["id", "model", "content", "stop_reason", "usage"]

/-- The names of the numbers of tokens. -/
def usageNames : List String := ["input_tokens", "output_tokens"]

/-- What a body says: its blocks and its numbers of tokens. -/
def Says (body : String) (items : List Raw) (input output : Nat) : Prop :=
  ∃ raw usage, Raw.ofChars? body.toList = some raw ∧
    raw.member? replyNames "content" = some (.arr items) ∧
    raw.member? replyNames "usage" = some usage ∧
    (usage.member? usageNames "input_tokens").bind asWord? = some input ∧
    (usage.member? usageNames "output_tokens").bind asWord? = some output

theorem tokens_of_usage {usage : Raw} {tokens : UInt64 × UInt64}
    (h : tokensOfRaw? levels usage = some tokens) : ∃ input output,
      (usage.member? usageNames "input_tokens").bind asWord? = some input ∧
      (usage.member? usageNames "output_tokens").bind asWord? = some output ∧
      tokens = (.ofNat input, .ofNat output) := by
  obtain ⟨f, hf, hread⟩ := Option.bind_eq_some_iff.mp h
  obtain ⟨input, hinput, hread⟩ := Option.bind_eq_some_iff.mp hread
  obtain ⟨output, houtput, hread⟩ := Option.bind_eq_some_iff.mp hread
  cases hread
  exact ⟨input, output, Json.Fields.member?_of_required? hf hinput (by decide),
    Json.Fields.member?_of_required? hf houtput (by decide), rfl⟩

/-- The blocks and the numbers of tokens of an answer are those of its body. -/
theorem says_of_decodeText? {body : String} {a : Answer}
    (h : Json.decodeText? Answer.ofRaw? body = some a) : ∃ items input output,
      Says body items input output ∧ List.Forall₂ Block.Stands items a.blocks ∧
        a.inputTokens = .ofNat input ∧ a.outputTokens = .ofNat output := by
  obtain ⟨raw, hraw, hread⟩ := Option.bind_eq_some_iff.mp h
  unfold Answer.ofRaw? at hread
  obtain ⟨f, hf, hread⟩ := Option.bind_eq_some_iff.mp hread
  obtain ⟨id, -, hread⟩ := Option.bind_eq_some_iff.mp hread
  obtain ⟨model, -, hread⟩ := Option.bind_eq_some_iff.mp hread
  obtain ⟨blocks, hblocks, hread⟩ := Option.bind_eq_some_iff.mp hread
  obtain ⟨stopReason, -, hread⟩ := Option.bind_eq_some_iff.mp hread
  obtain ⟨tokens, husage, hread⟩ := Option.bind_eq_some_iff.mp hread
  cases hread
  obtain ⟨content, hcontent, hlist⟩ := Option.bind_eq_some_iff.mp
    (Json.Fields.member?_of_required? hf hblocks (by decide))
  obtain ⟨items, rfl, hitems⟩ := Json.forall₂_of_asList? hlist
  obtain ⟨usage, hmember, htokens⟩ := Option.bind_eq_some_iff.mp
    (Json.Fields.member?_of_required? hf husage (by decide))
  obtain ⟨input, output, hinput, houtput, rfl⟩ := tokens_of_usage htokens
  exact ⟨items, input, output, ⟨raw, usage, hraw, hcontent, hmember, hinput, houtput⟩,
    hitems.imp fun _ _ => Block.stands_of_ofRaw?, rfl, rfl⟩

theorem Says.lt {body : String} {input output : Nat} (h : Says body items input output) :
    input < wordBound ∧ output < wordBound := by
  obtain ⟨-, usage, -, -, -, hinput, houtput⟩ := h
  obtain ⟨y, -, hy⟩ := Option.bind_eq_some_iff.mp hinput
  obtain ⟨z, -, hz⟩ := Option.bind_eq_some_iff.mp houtput
  exact ⟨Json.asWord?_lt hy, Json.asWord?_lt hz⟩

/-- Every block of the type of texts has a text. -/
theorem isSome_textOf? (h : List.Forall₂ Block.Stands items bs) {x : Raw} (hx : x ∈ items)
    (htype : typeOf? x = some "text") : (textOf? x).isSome := by
  induction h with
  | nil => cases hx
  | @cons y b items bs hb _ ih =>
    obtain rfl | hx := List.mem_cons.mp hx
    · cases b with
      | text s => exact Option.isSome_of_eq_some hb.2
      | other =>
        obtain ⟨type, htype', hne⟩ := hb
        cases htype.symm.trans htype'
        exact absurd rfl hne
    · exact ih hx

/-! ## The response -/

namespace Answer

variable {a : Answer}

theorem totalTokens_of_lt (h : a.inputTokens.toNat + a.outputTokens.toNat < wordBound) :
    ∃ total, a.totalTokens = .ok total ∧
      total.toNat = a.inputTokens.toNat + a.outputTokens.toNat :=
  ⟨_, if_pos h, UInt64.toNat_ofNat_of_lt' h⟩

theorem totalTokens_of_le (h : wordBound ≤ a.inputTokens.toNat + a.outputTokens.toNat) :
    a.totalTokens = .error (.panicked overflowMessage) :=
  if_neg (Nat.not_lt.mpr h)

theorem toResponse_of_total {total : UInt64} (h : a.totalTokens = .ok total) :
    ∃ r, a.toResponse = .ok r ∧
      r.content = (if textOfBlocks a.blocks = "" then none else some (textOfBlocks a.blocks)) ∧
      r.usage = ⟨a.inputTokens, a.outputTokens, total⟩ := by
  unfold toResponse
  rw [h]
  exact ⟨_, rfl, rfl, rfl⟩

theorem toResponse_of_error {f : Failure} (h : a.totalTokens = .error f) :
    a.toResponse = .error f := by
  unfold toResponse
  rw [h]
  rfl

end Answer

/-- The response of a reply that can be read, if a word can hold its tokens. Its content is the texts
    of all blocks of that type, in order, and missing if there is nothing in them; its numbers of
    tokens are those of the body and their sum. A greater sum breaks the program off instead. -/
theorem reply_converted {body : String} {a : Answer}
    (h : Json.decodeText? Answer.ofRaw? body = some a) : ∃ items input output,
      Says body items input output ∧
      (∀ x ∈ items, typeOf? x = some "text" → (textOf? x).isSome) ∧
      (input + output < wordBound → ∃ r, a.toResponse = .ok r ∧
        r.content = (if textsOf items = "" then none else some (textsOf items)) ∧
        r.usage.prompt.toNat = input ∧ r.usage.completion.toNat = output ∧
        r.usage.total.toNat = input + output) ∧
      (wordBound ≤ input + output → a.toResponse = .error (.panicked overflowMessage)) := by
  obtain ⟨items, input, output, hbody, hblocks, hinput, houtput⟩ := says_of_decodeText? h
  obtain ⟨hinputLt, houtputLt⟩ := hbody.lt
  have hprompt : a.inputTokens.toNat = input := by
    rw [hinput, UInt64.toNat_ofNat_of_lt' hinputLt]
  have hcompletion : a.outputTokens.toNat = output := by
    rw [houtput, UInt64.toNat_ofNat_of_lt' houtputLt]
  refine ⟨items, input, output, hbody, fun x hx => isSome_textOf? hblocks hx, fun hfits => ?_,
    fun hover => ?_⟩
  · rw [← hprompt, ← hcompletion] at hfits
    obtain ⟨total, htotal, hsum⟩ := Answer.totalTokens_of_lt hfits
    obtain ⟨r, hr, hcontent, husage⟩ := Answer.toResponse_of_total htotal
    rw [textOfBlocks_eq hblocks] at hcontent
    refine ⟨r, hr, hcontent, ?_⟩
    rw [husage, ← hprompt, ← hcompletion]
    exact ⟨rfl, rfl, hsum⟩
  · rw [← hprompt, ← hcompletion] at hover
    exact Answer.toResponse_of_error (Answer.totalTokens_of_le hover)

/-- Texts among other blocks, one of them given as an array, and the greatest total there can be. -/
theorem reply_converted_mixed :
    let body := Json.toText (.obj [("id", .str "m"), ("model", .str "c"),
      ("content", .arr [.obj [("type", .str "text"), ("text", .str "a")], .obj [("type", .str "image")],
        .arr [.str "text", .str "b"]]),
      ("usage", .obj [("output_tokens", .ofNat 5), ("input_tokens", .ofNat 18446744073709551610)])])
    ∃ a, Json.decodeText? Answer.ofRaw? body = some a ∧ ∃ items input output r,
      Says body items input output ∧ input + output < wordBound ∧ textsOf items = "ab" ∧
      a.toResponse = .ok r ∧ r.content = some "ab" ∧ r.usage.total.toNat = input + output := by
  intro body
  have hread : Json.decodeText? Answer.ofRaw? body = some ⟨"m", "c",
      [.text "a", .other, .text "b"], none, 18446744073709551610, 5⟩ := by
    decide +kernel
  obtain ⟨items, input, output, hbody, -, hfits, hover⟩ := reply_converted hread
  have hlt : input + output < wordBound := by
    by_contra hge
    cases hover (Nat.not_lt.mp hge)
  obtain ⟨r, hr, hcontent, -, -, htotal⟩ := hfits hlt
  have hab : r.content = some "ab" := by
    cases hr
    rfl
  have htexts : textsOf items = "ab" := by
    rw [hab] at hcontent
    split at hcontent
    · cases hcontent
    · exact (Option.some.inj hcontent).symm
  exact ⟨_, hread, items, input, output, r, hbody, hlt, htexts, hr, hab, htotal⟩

/-- The greatest number of tokens and one more: there is no response. -/
theorem total_overflows :
    let body := Json.toText (.obj [("id", .str "msg_1"), ("model", .str "claude"),
      ("content", .arr []), ("usage", .obj [("input_tokens", .ofNat 18446744073709551615),
        ("output_tokens", .ofNat 1)])])
    ∃ a, Json.decodeText? Answer.ofRaw? body = some a ∧
      a.inputTokens.toNat = 18446744073709551615 ∧ a.outputTokens.toNat = 1 ∧
      a.toResponse = .error (.panicked overflowMessage) := by
  intro body
  refine ⟨⟨"msg_1", "claude", [], none, 18446744073709551615, 1⟩, ?_, rfl, rfl, rfl⟩
  decide +kernel

end SkillPlan.Completion.Messages
