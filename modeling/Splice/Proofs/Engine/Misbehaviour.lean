import Splice.Proofs.Engine.Tasks

/-!
# Children that misbehave

What a child of the engine writes can be anything. A description is made of it exactly if it is a
JSON object of the expected shape that can be read with the room there is
(`Description.ofOutput_eq_ok_iff`), and what is made of everything else is a fault of reading
(`Description.misread_ofOutput`). The same holds of the words with which a child complains.

Main statement: what comes of a child that was started, whatever its status and whatever it wrote,
for each of the tasks that wait for the end of one (`Engine.settles_finished`).
-/

namespace Splice

/-! ## Faults of reading -/

/-- Whether a fault is that of an answer which has not the expected shape, or which goes beyond what
can be read. -/
def Fault.IsMisreading : Fault → Prop
  | encoding _ | jsonSyntax _ | longInteger _ | tooDeep _ | notObject _ | notList _ | notNumber _
  | oversizedInteger | unreadableNumber _ => True
  | _ => False

/-- Whether a reading fails, if it does, for the shape of what is read. -/
def Misread {α : Type} (reading : Except Fault α) : Prop :=
  ∀ fault, reading = .error fault → fault.IsMisreading

section

variable {α β : Type}

theorem misread_ok (a : α) : Misread (.ok a) := nofun

theorem Misread.bind {reading : Except Fault α} {f : α → Except Fault β} (h : Misread reading)
    (next : ∀ a, Misread (f a)) : Misread (reading >>= f) := by
  cases reading with
  | ok a => exact next a
  | error fault =>
    rintro _ ⟨⟩
    exact h fault rfl

theorem misread_strict (octets : Bytes) : Misread ((Utf8.strict octets).mapError .encoding) := by
  cases Utf8.strict octets with
  | ok text => exact misread_ok text
  | error malformation =>
    rintro _ ⟨⟩
    trivial

theorem misread_read (room : Nat) (text : String) :
    Misread ((Json.read room text).mapError .ofRefusal) := by
  cases Json.read room text with
  | ok value => exact misread_ok value
  | error refusal => cases refusal <;> (rintro _ ⟨⟩; trivial)

end

namespace Description

theorem misread_field? (name : String) (value : Json) : Misread (field? name value) := by
  cases value <;> (rintro _ ⟨⟩; try trivial)

theorem misread_items (value : Json) : Misread (items value) := by
  cases value <;> (rintro _ ⟨⟩; try trivial)

theorem misread_seconds (value : Json) : Misread (seconds value) := by
  cases value with
  | int | text =>
    unfold seconds
    dsimp only
    split
    · exact misread_ok _
    · rintro _ ⟨⟩
      trivial
  | _ => rintro _ ⟨⟩; try trivial

theorem misread_readDuration (value : Json) : Misread (readDuration value) := by
  refine (misread_field? _ _).bind fun _ => (misread_field? _ _).bind fun _ => ?_
  split
  · exact misread_ok _
  · exact misread_ok _
  · exact (misread_seconds _).bind fun _ => misread_ok _

theorem misread_anyOfType (type : String) (streams : List Json) :
    Misread (anyOfType type streams) := by
  induction streams with
  | nil => exact misread_ok false
  | cons stream rest ih =>
    have typed : Misread (hasType type stream) := by
      refine (misread_field? _ _).bind fun _ => ?_
      split <;> exact misread_ok _
    unfold anyOfType
    split
    case h_1 fault unread =>
      rintro _ ⟨⟩
      exact typed fault unread
    case h_2 => exact misread_ok true
    case h_3 => exact ih

/-- What an answer does not tell is a fault of reading it. -/
theorem misread_ofOutput (room : Nat) (stdout : Bytes) : Misread (ofOutput room stdout) :=
  (misread_strict stdout).bind fun text => (misread_read room text).bind fun value =>
    (misread_field? _ _).bind fun _ => (misread_readDuration value).bind fun _ =>
      (misread_items _).bind fun streams => (misread_anyOfType _ streams).bind fun _ =>
        (misread_anyOfType _ streams).bind fun _ => misread_ok _

/-! ## Answers of the expected shape -/

/-- Whether a stream is of some type. -/
def OfType (type : String) (stream : Json) : Prop :=
  ∃ fields, stream = .object fields ∧ Table.get? fields "codec_type" = some (.text type)

/-- Whether a stream of some type can be looked for among others: each of them that has none of that
type before it is an object. -/
def Searchable (type : String) (streams : List Json) : Prop :=
  ∀ before stream after, streams = before ++ stream :: after →
    (∀ earlier ∈ before, ¬ OfType type earlier) → ∃ fields, stream = .object fields

/-- Whether a duration, if there is one, is that of a file. -/
def Lasts : Option Json → Option Float → Prop
  | none, duration => duration = none
  | some .null, duration => duration = none
  | some value, duration => ∃ x, seconds value = .ok x ∧ duration = some x

/-- What a value of the expected shape tells about a file. -/
inductive Told : Json → Description → Prop
  | object {fields format : List (String × Json)} {streams : List Json} {d : Description}
      (formatted : (Table.get? fields "format").getD (.object []) = .object format)
      (lasts : Lasts (Table.get? format "duration") d.duration)
      (listed : items ((Table.get? fields "streams").getD (.list [])) = .ok streams)
      (seen : Searchable "video" streams) (heard : Searchable "audio" streams)
      (video : d.hasVideo = true ↔ ∃ stream ∈ streams, OfType "video" stream)
      (audio : d.hasAudio = true ↔ ∃ stream ∈ streams, OfType "audio" stream) :
      Told (.object fields) d

/-- What an answer tells about a file where it is read with some room: it is the text of such a
value. -/
def ToldBy (room : Nat) (stdout : Bytes) (d : Description) : Prop :=
  ∃ text value, Utf8.strict stdout = .ok text ∧ Json.read room text = .ok value ∧ Told value d

theorem field?_eq_ok_iff {name : String} {value : Json} {found : Option Json} :
    field? name value = .ok found ↔
      ∃ fields, value = .object fields ∧ Table.get? fields name = found := by
  cases value <;> simp [field?]

theorem hasType_object (type : String) (fields : List (String × Json)) :
    ∃ found, hasType type (.object fields) = .ok found ∧
      (found = true ↔ OfType type (.object fields)) := by
  have typed : OfType type (.object fields) ↔
      Table.get? fields "codec_type" = some (.text type) := by simp [OfType]
  have opened {found : Option Json} (there : Table.get? fields "codec_type" = found) :
      field? "codec_type" (.object fields) = .ok found := congrArg Except.ok there
  rw [typed]
  unfold hasType
  cases there : Table.get? fields "codec_type" with
  | none => exact ⟨false, by rw [opened there]; rfl, by simp⟩
  | some value =>
    rw [opened there]
    cases value with
    | text t => exact ⟨t == type, rfl, by simp⟩
    | _ => exact ⟨false, rfl, by simp⟩

theorem searchable_cons {type : String} {stream : Json} {rest : List Json} :
    Searchable type (stream :: rest) ↔
      (∃ fields, stream = .object fields) ∧ (¬ OfType type stream → Searchable type rest) := by
  constructor
  · refine fun h => ⟨h [] stream rest rfl (by simp), fun other before item after split first => ?_⟩
    refine h (stream :: before) item after (by rw [split]; rfl) ?_
    rw [List.forall_mem_cons]
    exact ⟨other, first⟩
  · rintro ⟨object, others⟩ before item after split first
    cases before with
    | nil =>
      obtain ⟨rfl, -⟩ := List.cons.inj split
      exact object
    | cons head before =>
      obtain ⟨rfl, rest⟩ := List.cons.inj split
      rw [List.forall_mem_cons] at first
      exact others first.1 before item after rest first.2

/-- A search finds whether some stream is of a type, as far as it can be looked for. -/
theorem anyOfType_eq_ok_iff {type : String} {streams : List Json} {found : Bool} :
    anyOfType type streams = .ok found ↔
      Searchable type streams ∧ (found = true ↔ ∃ stream ∈ streams, OfType type stream) := by
  induction streams with
  | nil => cases found <;> simp [anyOfType, Searchable]
  | cons stream rest ih =>
    rw [searchable_cons, anyOfType]
    simp only [List.mem_cons, exists_eq_or_imp]
    by_cases object : ∃ fields, stream = .object fields
    case neg =>
      have unread : ∃ fault, hasType type stream = .error fault := by
        cases stream with
        | object fields => exact absurd ⟨fields, rfl⟩ object
        | _ => exact ⟨_, rfl⟩
      obtain ⟨fault, unread⟩ := unread
      rw [unread]
      simp [object]
    case pos =>
      obtain ⟨fields, rfl⟩ := object
      obtain ⟨ofType, typed, same⟩ := hasType_object type fields
      rw [typed]
      cases ofType with
      | true => simp [same.1 rfl, eq_comm]
      | false =>
        have other : ¬ OfType type (.object fields) := fun h => absurd (same.2 h) (by decide)
        simp [other, ih]

theorem lasts_iff {duration? : Option Json} {duration : Option Float} :
    (match duration? with
      | none => .ok none
      | some .null => .ok none
      | some value => some <$> seconds value) = Except.ok duration ↔ Lasts duration? duration := by
  unfold Lasts
  split
  case h_1 => simp [eq_comm]
  case h_2 => simp [eq_comm]
  case h_3 value _ =>
    cases number : seconds value <;> simp [number, Functor.map, Except.map, eq_comm]

theorem readDuration_eq_ok_iff {fields : List (String × Json)} {duration : Option Float} :
    readDuration (.object fields) = .ok duration ↔
      ∃ format, (Table.get? fields "format").getD (.object []) = .object format ∧
        Lasts (Table.get? format "duration") duration := by
  have opened : readDuration (.object fields) =
      (field? "duration" ((Table.get? fields "format").getD (.object [])) >>= fun
        | none => .ok none
        | some .null => .ok none
        | some value => some <$> seconds value) := rfl
  rw [opened]
  cases (Table.get? fields "format").getD (.object []) with
  | object format =>
    simp only [Json.object.injEq, exists_eq_left', ← lasts_iff]
    rfl
  | _ => simp [field?, bind, Except.bind]

theorem ofJson_eq_ok_iff {value : Json} {d : Description} :
    ofJson value = .ok d ↔ Told value d := by
  unfold ofJson
  simp only [bind_eq_ok_iff, field?_eq_ok_iff, anyOfType_eq_ok_iff]
  constructor
  · rintro ⟨_, ⟨fields, rfl, rfl⟩, duration, timed, streams, listed, hasVideo, ⟨seen, video⟩,
      hasAudio, ⟨heard, audio⟩, same⟩
    cases same
    obtain ⟨format, formatted, lasts⟩ := readDuration_eq_ok_iff.1 timed
    exact .object formatted lasts listed seen heard video audio
  · rintro ⟨formatted, lasts, listed, seen, heard, video, audio⟩
    exact ⟨_, ⟨_, rfl, rfl⟩, _, readDuration_eq_ok_iff.2 ⟨_, formatted, lasts⟩, _, listed,
      _, ⟨seen, video⟩, _, ⟨heard, audio⟩, rfl⟩

/-- **A description is made of an answer exactly if it tells one.** -/
theorem ofOutput_eq_ok_iff {room : Nat} {stdout : Bytes} {d : Description} :
    ofOutput room stdout = .ok d ↔ ToldBy room stdout d := by
  unfold ofOutput ToldBy
  simp only [bind_eq_ok_iff, mapError_eq_ok_iff, ofJson_eq_ok_iff, exists_and_left]

end Description

namespace Engine

/-! ## Children that have ended -/

variable {α : Type}

/-- How a task comes out: with what it gives back, with a failure that counts as one of the engine,
or else, if something is misread, with a fault of reading. -/
structure ComesOut (outcome : Except Failure α) (gives : α → Prop) (misread : Prop) : Prop where
  returns (a : α) : outcome = .ok a ↔ gives a
  reports (p : Problem) : outcome = .error (.problem p) → p.report.kind = .engine
  fails_iff : (∃ fault, outcome = .error (.fault fault)) ↔ misread
  misreading (fault : Fault) : outcome = .error (.fault fault) → fault.IsMisreading

/-- Whether the words with which a failed child complains can be read, if it has any. -/
def Legible (stderr : Bytes) : Prop := stderr = [] ∨ ∃ words, Utf8.strict stderr = .ok words

theorem complaint_eq_ok_iff (stderr : Bytes) (fallback : String) :
    (∃ words, complaint stderr fallback = .ok words) ↔ Legible stderr := by
  unfold complaint Legible
  cases stderr with
  | nil => simp
  | cons b rest => simp [mapError_eq_ok_iff]

theorem misread_complaint (stderr : Bytes) (fallback : String) :
    Misread (complaint stderr fallback) := by
  unfold complaint
  split
  · exact misread_ok fallback
  · exact misread_strict stderr

/-- How a task comes out of which a child has ended: by its status, by what is read from its answer,
and by its words. -/
theorem comesOut_judge (fine : Prop) [Decidable fine] {reading : Except Fault α}
    (shaped : Misread reading) (stderr : Bytes) (fallback : String) {problem : String → Problem}
    (blames : ∀ words, (problem words).report.kind = .engine) (w : World) :
    ComesOut (w.run (ExceptT.run (if fine then Act.orFailure (reading.mapError .fault) else do
        let words ← Act.orFailure ((complaint stderr fallback).mapError .fault)
        throw (.problem (problem words))))).1
      (fun a => fine ∧ reading = .ok a)
      (fine ∧ (¬ ∃ a, reading = .ok a) ∨ ¬ fine ∧ ¬ Legible stderr) := by
  by_cases good : fine
  case pos =>
    rw [if_pos good]
    cases reading with
    | ok a =>
      show ComesOut (.ok a) _ _
      exact ⟨by simp [good], nofun, by simp [good], nofun⟩
    | error fault =>
      show ComesOut (.error (.fault fault)) _ _
      refine ⟨by simp, nofun, by simp [good], fun other same => ?_⟩
      cases same
      exact shaped fault rfl
  case neg =>
    rw [if_neg good, ← complaint_eq_ok_iff stderr fallback]
    have readable := misread_complaint stderr fallback
    cases said : complaint stderr fallback with
    | ok words =>
      show ComesOut (.error (.problem (problem words))) _ _
      refine ⟨by simp [good], fun p same => ?_, by simp [good], nofun⟩
      cases same
      exact blames words
    | error fault =>
      show ComesOut (.error (.fault fault)) _ _
      refine ⟨by simp [good], nofun, by simp [good], fun other same => ?_⟩
      cases same
      exact readable fault said

theorem comesOut_of_called {w later : World} {errand : Errand} {argv : List String}
    (finished : Finished) (ended : w.call errand argv = (.ok finished, later))
    {f : Finished → Act α} {gives : α → Prop} {misread : Prop}
    (h : ComesOut (later.run (f finished).run).1 gives misread) :
    ComesOut (w.run (call errand argv >>= f).run).1 gives misread := by
  suffices goes : (call errand argv >>= f).Ensures w fun outcome _ =>
      outcome = (later.run (f finished).run).1 by
    rw [show (w.run (call errand argv >>= f).run).1 = _ from goes]
    exact h
  rw [Act.ensures_bind, ensures_call, ended]
  rfl

variable {e : Engine} {w : World}

theorem comesOut_listFormats {limit : Int} {finished : Finished}
    (ended : w.own.engine.formats = .ok finished) :
    ComesOut (w.run (e.listFormats limit).run).1
      (fun names => finished.status = 0 ∧
        names = formatNames limit false [] (Text.lines (Utf8.lossy finished.stdout))) False := by
  refine comesOut_of_called finished (Prod.ext ?_ rfl) ?_
  · show w.own.engine.formats.mapError _ = _
    rw [ended]
    rfl
  by_cases fine : finished.status = 0
  · rw [if_pos fine]
    show ComesOut (.ok _) _ _
    exact ⟨by simp [fine, eq_comm], nofun, by simp, nofun⟩
  · rw [if_neg fine]
    show ComesOut (.error (.problem _)) _ _
    refine ⟨by simp [fine], fun p same => ?_, by simp, nofun⟩
    cases same
    rfl

theorem comesOut_probe {path : String} {finished : Finished}
    (ended : w.own.engine.probe path = .ok finished) :
    ComesOut (w.run (e.probe path).run).1
      (fun d => finished.status = 0 ∧
        Description.ToldBy e.settings.descriptionRoom finished.stdout d)
      (finished.status = 0 ∧
          (¬ ∃ d, Description.ToldBy e.settings.descriptionRoom finished.stdout d) ∨
        finished.status ≠ 0 ∧ ¬ Legible finished.stderr) := by
  simp only [← Description.ofOutput_eq_ok_iff]
  refine comesOut_of_called finished (Prod.ext ?_ rfl)
    (comesOut_judge _ (Description.misread_ofOutput _ _) _ _ (fun _ => rfl) _)
  show (w.own.engine.probe path).mapError _ = _
  rw [ended]
  rfl

/-- What is on record does not matter for the writing of a file. -/
theorem fst_written_noting (w : World) (event : Event) (output : String)
    (content : Option Bytes) :
    ((w.noting event).written output content).1 = (w.written output content).1 := by
  cases content with
  | none => rfl
  | some bytes =>
    show ((w.noting event).changing output (w.shared.disk.write output bytes w.stamp)).1 =
      (w.changing output (w.shared.disk.write output bytes w.stamp)).1
    cases w.shared.disk.write output bytes w.stamp <;> rfl

theorem comesOut_convert {input output : String} {isImage : Bool} {format : ClipFormat}
    {conversion : Conversion} (ended : w.own.engine.convert = .ok conversion)
    (wrote : (w.written output conversion.writes).1 = .ok ()) :
    ComesOut (w.run (e.convert input output isImage format).run).1
      (fun path => conversion.finished.status = 0 ∧ path = output)
      (conversion.finished.status ≠ 0 ∧ ¬ Legible conversion.finished.stderr) := by
  have blames (words : String) : (Problem.conversionFailed words).report.kind = .engine := rfl
  have judged (later : World) := comesOut_judge (conversion.finished.status = 0)
    (misread_ok output) conversion.finished.stderr "Unknown ffmpeg error" blames later
  simp only [Except.ok.injEq, @eq_comm _ output, exists_eq, not_true, and_false, false_or] at judged
  refine comesOut_of_called conversion.finished (Prod.ext ?_ rfl) (judged _)
  unfold World.call
  dsimp only [World.noting]
  rw [ended]
  show Except.map _ ((w.noting _).written output conversion.writes).1 = _
  rw [fst_written_noting, wrote]
  rfl

/-- **What comes of a child that was started**, whatever its status and whatever it wrote. Formats
are listed or their listing fails as a failure of the engine. A conversion gives back its path
exactly if the status is 0, and otherwise fails as a failure of the engine, unless the words of the
child cannot be read. A description is given exactly if the status is 0 and the answer tells it,
read with the room there is; it fails as a failure of the engine if the status is another and the
words of the child can be read. What fails otherwise is a fault of reading. -/
theorem settles_finished (e : Engine) (w : World) :
    (∀ limit finished, w.own.engine.formats = .ok finished →
      ComesOut (w.run (e.listFormats limit).run).1
        (fun names => finished.status = 0 ∧
          names = formatNames limit false [] (Text.lines (Utf8.lossy finished.stdout)))
        False) ∧
    (∀ path finished, w.own.engine.probe path = .ok finished →
      ComesOut (w.run (e.probe path).run).1
        (fun d => finished.status = 0 ∧
          Description.ToldBy e.settings.descriptionRoom finished.stdout d)
        (finished.status = 0 ∧
            (¬ ∃ d, Description.ToldBy e.settings.descriptionRoom finished.stdout d) ∨
          finished.status ≠ 0 ∧ ¬ Legible finished.stderr)) ∧
    ∀ input output isImage format conversion, w.own.engine.convert = .ok conversion →
      (w.written output conversion.writes).1 = .ok () →
      ComesOut (w.run (e.convert input output isImage format).run).1
        (fun path => conversion.finished.status = 0 ∧ path = output)
        (conversion.finished.status ≠ 0 ∧ ¬ Legible conversion.finished.stderr) :=
  ⟨fun _ _ => comesOut_listFormats, fun _ _ => comesOut_probe,
    fun _ _ _ _ _ => comesOut_convert⟩

/-- A file is described, and of another only half a list comes; formats are not listed, and a file
is not converted, in both cases with a single octet of complaint that is no text. -/
theorem settles_finished_garbled :
    let e := Engine.ofSettings (.standard "data" "uploads" "output") "" ""
    let garbled : Finished := ⟨1, [], [0xFF]⟩
    let answer (path : String) := Bytes.ofNumbers
      (if path = "a.mp4" then "\x7b\"streams\": [\x7b\"codec_type\": \"video\"\x7d]\x7d" else "[1")
    let w : World := ⟨⟨⟨[]⟩, 0.0, 0⟩, ⟨⟨true, .ok garbled, fun path => .ok ⟨0, answer path, []⟩,
      .ok ⟨none, garbled⟩, .error .notFound, false⟩, .never, []⟩⟩
    (∃ d, (w.run (e.probe "a.mp4").run).1 = .ok d ∧ d.hasVideo = true ∧ d.hasAudio = false) ∧
      (∃ fault, (w.run (e.probe "b.mp4").run).1 = .error (.fault fault) ∧ fault.IsMisreading) ∧
      (∀ fault, (w.run (e.listFormats 10).run).1 ≠ .error (.fault fault)) ∧
      ∃ fault, (w.run (e.convert "a" "b" false ⟨none, none, none⟩).run).1 =
        .error (.fault fault) ∧ fault.IsMisreading := by
  intro e garbled answer w
  obtain ⟨listing, probing, converting⟩ := settles_finished e w
  refine ⟨?_, ?_, fun fault failed => ?_, ?_⟩
  · have told : (Description.ofOutput e.settings.descriptionRoom (answer "a.mp4")).toOption.map
        (fun d => (d.hasVideo, d.hasAudio)) = some (true, false) := by decide +kernel
    obtain ⟨d, read, flags⟩ := Option.map_eq_some_iff.1 told
    have read := Description.ofOutput_eq_ok_iff.1 (toOption_eq_some_iff.1 read)
    have given := (probing "a.mp4" _ rfl).returns d
    exact ⟨d, given.2 ⟨rfl, read⟩, Prod.mk.inj flags⟩
  · have untold : ¬ ∃ d,
        Description.ToldBy e.settings.descriptionRoom (answer "b.mp4") d := by
      simp only [← Description.ofOutput_eq_ok_iff, ← isOk_iff_exists]
      decide +kernel
    have comes := probing "b.mp4" _ rfl
    obtain ⟨fault, failed⟩ := comes.fails_iff.2 (.inl ⟨rfl, untold⟩)
    exact ⟨fault, failed, comes.misreading fault failed⟩
  · exact (listing 10 garbled rfl).fails_iff.1 ⟨fault, failed⟩
  · have illegible : ¬ Legible garbled.stderr := by
      rw [← complaint_eq_ok_iff _ "", ← isOk_iff_exists]
      decide +kernel
    have comes := converting "a" "b" false ⟨none, none, none⟩ _ rfl rfl
    obtain ⟨fault, failed⟩ := comes.fails_iff.2 ⟨by decide, illegible⟩
    exact ⟨fault, failed, comes.misreading fault failed⟩

/-- An answer that is no JSON is a fault of the reader, and no failure of the engine. -/
theorem probe_not_json :
    let e := Engine.ofSettings (.standard "data" "uploads" "output") "" ""
    let w : World := ⟨⟨⟨[]⟩, 0.0, 0⟩, ⟨⟨true, .error .notFound,
      fun _ => .ok ⟨0, Bytes.ofNumbers "not json", []⟩, .error .notFound, .error .notFound, false⟩,
      .never, []⟩⟩
    (w.run (e.probe "a.mp4").run).1 = .error (.fault (.jsonSyntax ⟨.value, 0, 1, 1⟩)) := by
  intro e w
  rfl

end Engine

end Splice
