import Mathlib.Data.List.TakeWhile
import Splice.Export.Request

/-!
# Fields that are left out

There are three ways to leave a field of a form out: not to send it, to send nothing but blanks, and
to send null (`FormField.Omitted`). The fields are decoded in their order, and then the request is
made of the four values; where there is none it has a default (`ExportRequest.ofForm_eq`). To the
request null is the same as no value, although it reaches it by another way for each field: two of
them admit null, and from the other two it is taken out before.

Main statement: it makes no difference in which way a field is left out, whatever the other fields
hold (`ExportRequest.ofForm_omitted`).
-/

namespace Splice

/-! ## Null between spaces -/

namespace Json

theorem skip_append_of_spaces {spaces cs : List Char} (all : ∀ c ∈ spaces, isSpace c = true) :
    skip (spaces ++ cs) = skip cs :=
  List.dropWhile_append_of_pos all

theorem skip_of_spaces {spaces : List Char} (all : ∀ c ∈ spaces, isSpace c = true) :
    skip spaces = [] :=
  List.dropWhile_eq_nil_iff.2 all

theorem scanAtom_null (rest : List Char) :
    scanAtom ("null".toList ++ rest) = .ok (.null, rest) := by
  simp [scanAtom, literals]

theorem scanValue_null (depth room : Nat) (rest : List Char) :
    scanValue (depth + 1) room ("null".toList ++ rest) = .ok (.null, rest) := by
  rw [scanValue, scanAtom_null] <;> simp

/-- Null is read from its text with any spaces around. -/
theorem read_null (room : Nat) {before after : String}
    (front : ∀ c ∈ before.toList, isSpace c = true)
    (behind : ∀ c ∈ after.toList, isSpace c = true) :
    read room (before ++ "null" ++ after) = .ok .null := by
  have split : (before ++ "null" ++ after).toList =
      before.toList ++ ("null".toList ++ after.toList) := by
    rw [String.toList_append, String.toList_append, List.append_assoc]
  have skipped : skip (before ++ "null" ++ after).toList = "null".toList ++ after.toList := by
    rw [split, skip_append_of_spaces front]
    rfl
  -- The mark is not a space, and it does not begin null either.
  have unmarked : (before ++ "null" ++ after).toList.head? ≠ some '\uFEFF' := by
    rw [split]
    intro marked
    cases spaces : before.toList with
    | nil => simp [spaces] at marked
    | cons c rest =>
      have space := front c (by simp [spaces])
      rw [spaces, List.cons_append, List.head?_cons, Option.some.injEq] at marked
      rw [marked] at space
      cases space
  rw [read, if_neg (by simpa using unmarked), readUnmarked, scanText, skipped, scanValue_null]
  dsimp only
  rw [skip_of_spaces behind]
  rfl

end Json

/-! ## The values of a form -/

/-- A value that is not null. -/
def Json.nonNull? : Json → Option Json
  | .null => none
  | value => some value

/-- The value that a field gives, if it gives one; null is none. -/
def FormField.given (room : Nat) (name : String) (field : FormField) :
    Except Failure (Option Json) :=
  (ExportForm.decode room name field).map fun value? => value?.bind Json.nonNull?

namespace Payload

variable {α : Type}

/-- A field read from the value that was given for it, or else a default. -/
def givenOr (reader : Reader α) (default : α) (name : String) : Option Json → Checked α
  | some value => (reader value).under (.field name)
  | none => .valid default

end Payload

open Payload in
/-- The request that is made of the values of the four fields. -/
def ExportRequest.ofValues (timeline audioSettings exportSettings mediaFiles : Option Json) :
    Checked ExportRequest :=
  ExportRequest.mk <$> givenOr (list timelineItem) [] "timeline" timeline
    <*> givenOr (nullable Payload.audioSettings) none "audioSettings" audioSettings
    <*> givenOr Payload.exportSettings .standard "exportSettings" exportSettings
    <*> givenOr (nullable (list manifestItem)) none "mediaFiles" mediaFiles

namespace ExportForm

/-- The row of a field among the decoded ones, if it has a value. -/
def row (name : String) (value? : Option Json) : Json.Fields :=
  (value?.map fun value => (name, value)).toList

theorem decodeAll_cons (room : Nat) (name : String) (field : FormField)
    (rest : List (String × FormField)) :
    decodeAll room ((name, field) :: rest) =
      decode room name field >>= fun value? =>
        (decodeAll room rest).map (row name value? ++ ·) := by
  rw [decodeAll]
  cases decode room name field with
  | error failure => rfl
  | ok value? =>
    cases value? with
    | none => cases decodeAll room rest <;> simp [bind, Except.bind, row, Except.map]
    | some value => rfl

theorem get?_row (name : String) (value? : Option Json) (key : String) :
    Table.get? (row name value?) key = if name = key then value? else none := by
  cases value? with
  | none => simp [row]
  | some value => simp [row, Table.get?_cons]

theorem filter_row (name : String) (value? : Option Json) :
    ((row name value?).filter fun (name, value) => counts name value) =
      row name (value?.filter (counts name)) := by
  cases value? with
  | none => rfl
  | some value => by_cases given : counts name value <;> simp [row, given, Option.filter]

/-- Null is taken out of the two fields that do not admit it. -/
theorem filter_counts (name : String) (value? : Option Json) :
    value?.filter (counts name) =
      if name = "timeline" ∨ name = "exportSettings" then value?.bind Json.nonNull?
      else value? := by
  cases value? with
  | none => simp
  | some value =>
    by_cases first : name = "timeline" <;> by_cases second : name = "exportSettings" <;>
      cases value <;> simp [Option.filter, counts, Json.nonNull?, first, second]

end ExportForm

/-! ## The request made of them -/

namespace Payload

variable {α : Type} {name : String} {fields : Json.Fields} {value? : Option Json}

theorem optional_eq_givenOr (reader : Reader α) (default : α)
    (look : Table.get? fields name = value?) :
    optional reader default name fields = givenOr reader default name value? := by
  unfold optional
  rw [look]
  cases value? <;> rfl

/-- A field that admits null reads it like no value. -/
theorem givenOr_nullable (reader : Reader α) :
    givenOr (nullable reader) none name value? =
      givenOr (nullable reader) none name (value?.bind Json.nonNull?) := by
  cases value? with
  | none => rfl
  | some value => cases value <;> rfl

/-- A list that must be there is empty if there is an empty one in its place. -/
theorem required_list_eq_givenOr (reader : Reader α)
    (look : Table.get? fields name = some (value?.getD (.list []))) :
    required (list reader) name fields = givenOr (list reader) [] name value? := by
  unfold required
  rw [look]
  cases value? <;> rfl

end Payload

namespace ExportForm

variable (timeline audioSettings exportSettings mediaFiles : Option Json)

/-- The decoded fields of a form. -/
def rows : Json.Fields :=
  row "timeline" timeline ++ (row "audioSettings" audioSettings ++
    (row "exportSettings" exportSettings ++ row "mediaFiles" mediaFiles))

/-- What stands under the four names in the payload. -/
theorem exists_payload :
    ∃ fields, payload (rows timeline audioSettings exportSettings mediaFiles) = .object fields ∧
      Table.get? fields "timeline" = some ((timeline.bind Json.nonNull?).getD (.list [])) ∧
      Table.get? fields "audioSettings" = audioSettings ∧
      Table.get? fields "exportSettings" = exportSettings.bind Json.nonNull? ∧
      Table.get? fields "mediaFiles" = mediaFiles := by
  have given : ((rows timeline audioSettings exportSettings mediaFiles).filter
        fun (name, value) => counts name value) =
      rows (timeline.bind Json.nonNull?) audioSettings (exportSettings.bind Json.nonNull?)
        mediaFiles := by
    simp [rows, List.filter_append, filter_row, filter_counts]
  refine ⟨_, rfl, ?_⟩
  rw [given]
  -- Without a timeline an empty list is put in its place, in front of the other fields.
  cases timeline.bind Json.nonNull? <;>
    simp [rows, Table.get?_append, Table.get?_cons, get?_row]

/-- Of the decoded fields, the request depends on those that are not null. -/
theorem exportRequest_payload :
    Payload.exportRequest (payload (rows timeline audioSettings exportSettings mediaFiles)) =
      ExportRequest.ofValues (timeline.bind Json.nonNull?) (audioSettings.bind Json.nonNull?)
        (exportSettings.bind Json.nonNull?) (mediaFiles.bind Json.nonNull?) := by
  obtain ⟨fields, object, first, second, third, fourth⟩ :=
    exists_payload timeline audioSettings exportSettings mediaFiles
  rw [object, ExportRequest.ofValues, ← Payload.required_list_eq_givenOr _ first,
    ← Payload.givenOr_nullable, ← Payload.optional_eq_givenOr _ _ second,
    ← Payload.optional_eq_givenOr _ _ third, ← Payload.givenOr_nullable,
    ← Payload.optional_eq_givenOr _ _ fourth]
  rfl

end ExportForm

/-- The fields are decoded in their order, and the request is made of what they give. -/
theorem ExportRequest.ofForm_eq (room : Nat) (form : ExportForm) :
    ofForm room form = (do
      let timeline ← form.timeline.given room "timeline"
      let audioSettings ← form.audioSettings.given room "audioSettings"
      let exportSettings ← form.exportSettings.given room "exportSettings"
      let mediaFiles ← form.mediaFiles.given room "mediaFiles"
      (ofValues timeline audioSettings exportSettings mediaFiles).toExcept fun issues =>
        .problem (.payload Payload.exportRequestTitle issues)) := by
  unfold ofForm ExportForm.fields
  simp only [ExportForm.decodeAll_cons, FormField.given]
  cases ExportForm.decode room "timeline" form.timeline with
  | error failure => rfl
  | ok timeline =>
  cases ExportForm.decode room "audioSettings" form.audioSettings with
  | error failure => rfl
  | ok audioSettings =>
  cases ExportForm.decode room "exportSettings" form.exportSettings with
  | error failure => rfl
  | ok exportSettings =>
  cases ExportForm.decode room "mediaFiles" form.mediaFiles with
  | error failure => rfl
  | ok mediaFiles =>
    simp only [bind, Except.bind, Except.map, ExportForm.decodeAll, List.append_nil,
      ← ExportForm.exportRequest_payload, ExportForm.rows]

/-! ## Fields that are left out -/

/-- Whether a field is left out: it is not sent, or blank, or null with any spaces around. -/
inductive FormField.Omitted : FormField → Prop
  | absent : Omitted .absent
  | blank {s : String} (blank : Text.allBlank s = true) : Omitted (.text s)
  | null {before after : String} (front : before.toList.all Json.isSpace = true)
      (behind : after.toList.all Json.isSpace = true) :
      Omitted (.text (before ++ "null" ++ after))

/-- A field that is left out gives no value. -/
theorem FormField.Omitted.given_eq {field : FormField} (omitted : field.Omitted) (room : Nat)
    (name : String) : field.given room name = .ok none := by
  cases omitted with
  | absent => rfl
  | blank blank => rw [FormField.given, ExportForm.decode, if_pos blank]; rfl
  | null front behind =>
    rw [FormField.given, ExportForm.decode,
      Json.read_null room (List.all_eq_true.1 front) (List.all_eq_true.1 behind)]
    split <;> rfl

/-- **It makes no difference how a field is left out.** Whatever the other fields hold, a form with
a field left out in any way makes the same request as without it, or fails in the same way. If all
four are left out, the timeline is empty, there are no sound settings and no manifest, and the
export settings are the standard ones, which are those that an empty object stands for. -/
theorem ExportRequest.ofForm_omitted (room : Nat) :
    (∀ field : FormField, field.Omitted → ∀ form : ExportForm,
      ofForm room { form with timeline := field } = ofForm room { form with timeline := .absent } ∧
      ofForm room { form with audioSettings := field } =
        ofForm room { form with audioSettings := .absent } ∧
      ofForm room { form with exportSettings := field } =
        ofForm room { form with exportSettings := .absent } ∧
      ofForm room { form with mediaFiles := field } =
        ofForm room { form with mediaFiles := .absent }) ∧
    (∀ form : ExportForm, (∀ field ∈ form.fields, field.2.Omitted) →
      ofForm room form = .ok ⟨[], none, .standard, none⟩) ∧
    Payload.exportSettings (.object []) = .valid .standard := by
  refine ⟨fun field omitted form => ?_, fun form all => ?_, rfl⟩
  · simp only [ofForm_eq, omitted.given_eq, FormField.Omitted.absent.given_eq, and_self]
  · simp only [ExportForm.fields, List.forall_mem_cons] at all
    obtain ⟨first, second, third, fourth, -⟩ := all
    rw [ofForm_eq, first.given_eq, second.given_eq, third.given_eq, fourth.given_eq]
    rfl

/-- Blank sound settings and null for the export settings, beside a timeline that is no list; and a
form with nothing in it. -/
theorem ExportRequest.ofForm_omitted_in_part :
    let room := Json.usualRoom
    let form : ExportForm := ⟨.text "7", .absent, .absent, .absent⟩
    ofForm room { form with audioSettings := .text " \u3000" } = ofForm room form ∧
      ofForm room { form with exportSettings := .text ("\n " ++ "null" ++ "\t") } =
        ofForm room form ∧
      (∃ failure, ofForm room form = .error failure) ∧
      ofForm room ⟨.text ("" ++ "null" ++ "\n"), .text "", .text " \x1f", .absent⟩ =
        .ok ⟨[], none, .standard, none⟩ := by
  intro room form
  obtain ⟨same, nothing, -⟩ := ofForm_omitted room
  have blank : FormField.Omitted (.text " \u3000") := .blank (by decide)
  have null : FormField.Omitted (.text ("\n " ++ "null" ++ "\t")) := .null (by decide) (by decide)
  refine ⟨(same _ blank form).2.1, (same _ null form).2.2.1, ⟨_, rfl⟩, nothing _ ?_⟩
  simp only [ExportForm.fields, List.forall_mem_cons]
  exact ⟨.null (by decide) (by decide), .blank (by decide), .blank (by decide), .absent, by simp⟩

end Splice
