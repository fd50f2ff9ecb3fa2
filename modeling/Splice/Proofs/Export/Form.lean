import Splice.Export.Request
import Splice.Proofs.Json.Limits

/-!
# What comes of a form

All four fields of a form are decoded before the request is looked at. So a form is answered in one
of five ways (`ExportForm.Answered`): with a request; with the issues of its payload, if every field
can be decoded; with the place at which the first field that is no JSON goes wrong; or with a fault,
if that field stops at an integer of more digits than can be read, or at a list or an object for
which there is no room.

Main statement: a form is answered in one of these ways, and in one of the first three if none of
its texts has so many digits in a row or nests so deep (`ExportRequest.ofForm_reports`).
-/

namespace Splice

/-- Whether a field can be decoded with some room: a text that is not blank has to be JSON. -/
def FormField.Legible (room : Nat) : FormField → Prop
  | .text s => Text.allBlank s = true ∨ (Json.read room s).isOk = true
  | _ => True

namespace ExportForm

/-! ## Fields one after the other -/

/-- The failure of a field whose text is refused. -/
def refused (name : String) : Json.Refusal → Failure
  | .fault fault => .problem (.fieldSyntax name fault)
  | refusal => .fault (.ofRefusal refusal)

/-- Whether a refused text is that of the first of some fields that cannot be decoded. -/
def FirstRefused (room : Nat) (fields : List (String × FormField)) (name s : String)
    (refusal : Json.Refusal) : Prop :=
  Text.allBlank s = false ∧ Json.read room s = .error refusal ∧ ∃ before after,
    fields = before ++ (name, .text s) :: after ∧ ∀ field ∈ before, field.2.Legible room

variable {room : Nat} {fields : List (String × FormField)} {name s : String}
  {refusal : Json.Refusal}

theorem exists_decode_of_legible {field : FormField} (legible : field.Legible room)
    (name : String) : ∃ value?, decode room name field = .ok value? := by
  cases field with
  | absent => exact ⟨none, rfl⟩
  | decoded value => exact ⟨some value, rfl⟩
  | text s =>
    rw [decode]
    split
    case isTrue => exact ⟨none, rfl⟩
    case isFalse solid =>
      cases read : Json.read room s with
      | ok value => exact ⟨some value, rfl⟩
      | error refusal =>
        have unread := legible.resolve_left solid
        rw [read] at unread
        cases unread

theorem decode_of_refused (solid : Text.allBlank s = false)
    (read : Json.read room s = .error refusal) (name : String) :
    decode room name (.text s) = .error (refused name refusal) := by
  rw [decode, if_neg (by simp [solid]), read]
  cases refusal <;> rfl

/-- Fields that can all be decoded are. -/
theorem exists_decodeAll_of_legible (legible : ∀ field ∈ fields, field.2.Legible room) :
    ∃ decoded, decodeAll room fields = .ok decoded := by
  induction fields with
  | nil => exact ⟨[], rfl⟩
  | cons field rest ih =>
    rw [List.forall_mem_cons] at legible
    obtain ⟨value?, first⟩ := exists_decode_of_legible legible.1 field.1
    obtain ⟨decoded, others⟩ := ih legible.2
    rw [decodeAll, first]
    cases value? with
    | none => exact ⟨decoded, others⟩
    | some value =>
      dsimp only
      rw [others]
      exact ⟨_, rfl⟩

/-- The first field that cannot be decoded is the one that is reported. -/
theorem decodeAll_of_firstRefused (first : FirstRefused room fields name s refusal) :
    decodeAll room fields = .error (refused name refusal) := by
  obtain ⟨solid, read, before, after, rfl, legible⟩ := first
  induction before with
  | nil => rw [List.nil_append, decodeAll, decode_of_refused solid read]
  | cons field rest ih =>
    rw [List.forall_mem_cons] at legible
    obtain ⟨value?, decoded⟩ := exists_decode_of_legible legible.1 field.1
    rw [List.cons_append, decodeAll, decoded]
    cases value? with
    | none => exact ih legible.2
    | some value =>
      dsimp only
      rw [ih legible.2]
      rfl

/-- All fields can be decoded, or there is a first one that cannot. -/
theorem legible_or_firstRefused (room : Nat) (fields : List (String × FormField)) :
    (∀ field ∈ fields, field.2.Legible room) ∨
      ∃ name s refusal, FirstRefused room fields name s refusal := by
  induction fields with
  | nil => exact .inl fun _ mem => absurd mem List.not_mem_nil
  | cons field rest ih =>
    by_cases legible : field.2.Legible room
    · refine ih.imp (fun others => List.forall_mem_cons.2 ⟨legible, others⟩) ?_
      rintro ⟨name, s, refusal, solid, read, before, after, rfl, others⟩
      exact ⟨name, s, refusal, solid, read, field :: before, after, rfl,
        List.forall_mem_cons.2 ⟨legible, others⟩⟩
    · obtain ⟨name, field⟩ := field
      cases field with
      | absent => exact absurd trivial legible
      | decoded value => exact absurd trivial legible
      | text s =>
        obtain ⟨solid, unread⟩ := not_or.1 legible
        cases read : Json.read room s with
        | ok value => exact absurd (by rw [read]; rfl) unread
        | error refusal =>
          exact .inr ⟨name, s, refusal, by simpa using solid, read, [], rest, rfl, by simp⟩

/-! ## Forms -/

/-- How a form is answered whose texts are read with some room. -/
inductive Answered (room : Nat) (form : ExportForm) : Except Failure ExportRequest → Prop
  | request (request : ExportRequest) (legible : ∀ field ∈ form.fields, field.2.Legible room) :
      Answered room form (.ok request)
  | issues (issues : List Issue) (legible : ∀ field ∈ form.fields, field.2.Legible room) :
      Answered room form (.error (.problem (.payload Payload.exportRequestTitle issues)))
  | unreadable {name s : String} {fault : Json.SyntaxFault}
      (first : FirstRefused room form.fields name s (.fault fault)) :
      Answered room form (.error (.problem (.fieldSyntax name fault)))
  | longInteger {name s : String} {digits : Nat}
      (first : FirstRefused room form.fields name s (.longInteger digits))
      (many : Json.mostDigits < digits) (run : Json.HasRun digits s.toList) :
      Answered room form (.error (.fault (.longInteger digits)))
  | tooDeep {name s : String} {nested : Json.Nested}
      (first : FirstRefused room form.fields name s (.tooDeep nested))
      (deep : room < Json.nesting s) : Answered room form (.error (.fault (.tooDeep nested)))

/-- Whether no text of a form has more digits in a row than an integer may have. -/
def Short (form : ExportForm) : Prop :=
  ∀ field ∈ form.fields, ∀ s, field.2 = .text s → ∀ n, Json.HasRun n s.toList → n ≤ Json.mostDigits

/-- Whether in no text of a form more lists and objects are open at once than there is room for. -/
def Shallow (room : Nat) (form : ExportForm) : Prop :=
  ∀ field ∈ form.fields, ∀ s, field.2 = .text s → Json.nesting s ≤ room

theorem FirstRefused.mem (first : FirstRefused room fields name s refusal) :
    (name, .text s) ∈ fields := by
  obtain ⟨-, -, before, after, rfl, -⟩ := first
  simp

end ExportForm

open ExportForm in
theorem ExportRequest.answered_ofForm (room : Nat) (form : ExportForm) :
    form.Answered room (ofForm room form) := by
  unfold ofForm
  rcases legible_or_firstRefused room form.fields with legible | ⟨name, s, refusal, first⟩
  · obtain ⟨decoded, all⟩ := exists_decodeAll_of_legible legible
    rw [all]
    dsimp only
    cases Payload.exportRequest (ExportForm.payload decoded) with
    | valid request => exact .request request legible
    | invalid issues => exact .issues issues legible
  · rw [decodeAll_of_firstRefused first]
    cases refusal with
    | fault fault => exact .unreadable first
    | longInteger digits =>
      obtain ⟨many, run⟩ := Json.hasRun_of_read first.2.1
      exact .longInteger first many run
    | tooDeep nested => exact .tooDeep first (Json.lt_nesting_of_read first.2.1)

theorem ExportRequest.ofForm_of_firstRefused {room : Nat} {form : ExportForm} {name s : String}
    {refusal : Json.Refusal} (first : ExportForm.FirstRefused room form.fields name s refusal) :
    ofForm room form = .error (ExportForm.refused name refusal) := by
  rw [ofForm, ExportForm.decodeAll_of_firstRefused first]

/-- **What comes of a form.** Either its fields can all be decoded, and it is a request or is
reported with the issues of its payload; or the first field that cannot be decoded is reported, or
is a fault if it stops at an integer of too many digits, or at a list or an object that finds no
room. So a form without that many digits in a row, and with no text that nests deeper than there is
room for, is a request or a malformed payload. -/
theorem ExportRequest.ofForm_reports (room : Nat) (form : ExportForm) :
    form.Answered room (ofForm room form) ∧
      (∀ name s refusal, ExportForm.FirstRefused room form.fields name s refusal →
        ofForm room form = .error (ExportForm.refused name refusal)) ∧
      (form.Short → form.Shallow room → ∀ failure, ofForm room form = .error failure →
        ∃ p, failure = .problem p ∧ p.report.kind = .invalidPayload ∧ p.report.kind.status = 400) := by
  have answered := answered_ofForm room form
  refine ⟨answered, fun name s refusal => ofForm_of_firstRefused,
    fun short shallow failure failed => ?_⟩
  rw [failed] at answered
  cases answered with
  | issues issues legible => exact ⟨_, rfl, rfl, rfl⟩
  | unreadable first => exact ⟨_, rfl, rfl, rfl⟩
  | longInteger first many run =>
    exact absurd (short _ first.mem _ rfl _ run) (Nat.not_le_of_lt many)
  | tooDeep first deep => exact absurd (shallow _ first.mem _ rfl) (Nat.not_le_of_lt deep)

/-- Two fields are no JSON, and a third has no timeline in it: the first of the two is reported. -/
theorem ExportRequest.ofForm_reports_first :
    let form : ExportForm := ⟨.text "7", .text "[1,", .absent, .text "\x7b"⟩
    ∃ p, ofForm 10 form = .error (.problem p) ∧ p.report.kind = .invalidPayload ∧
      p.details = some
        "Field 'audioSettings' is not valid JSON: Expecting value: line 1 column 4 (char 3)" := by
  intro form
  obtain ⟨-, named, reported⟩ := ofForm_reports 10 form
  have few : form.Short := by
    intro field mem s text n run
    refine run.le.trans ?_
    simp only [form, ExportForm.fields, List.mem_cons, List.not_mem_nil, or_false] at mem
    rcases mem with rfl | rfl | rfl | rfl <;> cases text <;> decide
  have shallow : form.Shallow 10 := by
    intro field mem s text
    simp only [form, ExportForm.fields, List.mem_cons, List.not_mem_nil, or_false] at mem
    rcases mem with rfl | rfl | rfl | rfl <;> cases text <;> decide
  have first : ExportForm.FirstRefused 10 form.fields "audioSettings" "[1,"
      (.fault ⟨.value, 3, 1, 4⟩) := by
    refine ⟨by decide +kernel, by rfl, [("timeline", .text "7")], _, rfl, ?_⟩
    rw [List.forall_mem_singleton]
    exact .inr (by decide +kernel)
  have failed := named _ _ _ first
  obtain ⟨p, same, kind, -⟩ := reported few shallow _ failed
  cases same
  exact ⟨_, failed, kind, by decide +kernel⟩

/-- An integer of 4301 digits in the place of the timeline is a fault, and no malformed payload. -/
theorem ExportRequest.ofForm_long_integer :
    ofForm Json.usualRoom
        ⟨.text (String.ofList (List.replicate 4301 '1')), .absent, .absent, .absent⟩ =
      .error (.fault (.longInteger 4301)) := by
  have digits : ∀ c ∈ List.replicate 4301 '1', c.isDigit := fun c mem => by
    rw [List.eq_of_mem_replicate mem]
    rfl
  have read := @Json.read_of_digits Json.usualRoom _ digits
    (by rw [List.head?_replicate]; decide) (by rw [List.length_replicate]; decide)
  rw [List.length_replicate] at read
  refine @ofForm_of_firstRefused _ _ "timeline" _ _ ⟨?_, read, [], _, rfl, by simp⟩
  rw [Text.allBlank, String.toList_ofList]
  rfl

/-- However much room there is, one opening bracket more in the place of the timeline is a fault,
and no malformed payload. -/
theorem ExportRequest.ofForm_too_deep (room : Nat) :
    ofForm room
        ⟨.text (String.ofList (List.replicate (room + 1) '[')), .absent, .absent, .absent⟩ =
      .error (.fault (.tooDeep .list)) := by
  have read := Json.read_of_brackets room []
  rw [List.append_nil] at read
  refine @ofForm_of_firstRefused _ _ "timeline" _ _ ⟨?_, read, [], _, rfl, by simp⟩
  rw [Text.allBlank, String.toList_ofList]
  rfl

end Splice
