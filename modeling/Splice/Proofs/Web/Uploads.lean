import Splice.Proofs.Storage.Storing
import Splice.Web.Message

/-!
# The files of a form arrive whole

A reader of a form in parts adds a value to the form only where it closes a part, and everything
else that it does leaves the form alone (`Multipart.Reader.whole_step`). The content of a file is
cut into chunks then, none of which is empty or missing, so that whoever stores the file gets all of
it (`Request.delivered_eq_content`).
-/

namespace Splice

/-! ## Contents in chunks -/

theorem Upload.flatten_chunks (content : Bytes) : (chunks content).flatten = content := by
  fun_induction chunks content with
  | case1 => rfl
  | case2 first rest ih => rw [List.flatten_cons, ih, List.take_append_drop]

theorem Upload.content_ofContent (filename contentType : Option String) (content : Bytes) :
    (ofContent filename contentType content).content = content := by
  have all (chunks : List Bytes) :
      (chunks.map (Except.ok (ε := SystemError))).filterMap Except.toOption = chunks := by
    rw [List.filterMap_map]
    exact List.filterMap_some
  rw [Upload.content, ofContent, all, flatten_chunks]

namespace Web

/-- Whether a value is a text, or a file whose content arrives whole. -/
def FormValue.Whole : FormValue → Prop
  | .text _ => True
  | .file upload _ => Upload.delivered upload.reads = upload.content

/-- Whether every file in a form arrives whole. -/
def Form.Whole (form : Form) : Prop := ∀ row ∈ form, row.2.Whole

theorem Form.Whole.delivered {form : Form} (whole : form.Whole) {name : String} {upload : Upload}
    (mem : upload ∈ form.uploads name) : Upload.delivered upload.reads = upload.content := by
  obtain ⟨value, listed, found⟩ := List.mem_filterMap.1 mem
  obtain ⟨row, inside, rfl⟩ := List.mem_map.1 listed
  have arrives := whole row (List.mem_filter.1 inside).1
  generalize row.2 = value at found arrives
  cases value with
  | text s => cases found
  | file other lines =>
    obtain rfl := Option.some_inj.1 found
    exact arrives

/-! ## Forms in parts -/

namespace Multipart

theorem Opened.whole_value (charset : String) (p : Opened) (content : Bytes) :
    (p.value charset content).Whole := by
  unfold Opened.value
  split
  · trivial
  · exact (Upload.delivered_ofContent _ _ content).trans (Upload.content_ofContent _ _ content).symm

namespace Reader

/-- Whether a reader that went on has left the form alone. -/
def Leaves (r : Reader) (outcome : Except FormFault Reader) : Prop :=
  ∀ next, outcome = .ok next → next.form = r.form

variable {g : Grammar} {r next : Reader} {b : UInt8}

theorem leaves_goTo (place : Place) : r.Leaves (r.goTo place) := by
  intro next same
  cases same
  rfl

theorem leaves_error (fault : FormFault) : r.Leaves (.error fault) := nofun

theorem leaves_readBoundary (missing : Bytes) : r.Leaves (r.readBoundary missing b) := by
  unfold readBoundary
  repeat' split
  all_goals first | exact leaves_goTo _ | exact leaves_error _

theorem leaves_readName (lines : List Line) (octets : Bytes) :
    r.Leaves (r.readName lines octets b) := by
  unfold readName
  repeat' split
  all_goals first | exact leaves_goTo _ | exact leaves_error _

theorem leaves_readValue (lines : List Line) (name octets : Bytes) (size : Nat) :
    r.Leaves (r.readValue lines name octets size b) := by
  unfold readValue
  repeat' split
  all_goals first | exact leaves_goTo _ | exact leaves_error _

theorem leaves_openPart (lines : List Line) : r.Leaves (r.openPart g lines) := by
  have counted (place : Place) (texts files : Nat) :
      r.Leaves (.ok { r with place, texts, files }) := by
    intro next same
    cases same
    rfl
  unfold openPart
  repeat' split
  all_goals first | exact counted _ _ _ | exact leaves_error _

/-- What a part that is closed adds to the form is whole. -/
theorem whole_closePart (whole : r.form.Whole) {part : Opened} {octets : Bytes} {place : Place}
    (h : r.closePart g part octets place = .ok next) : next.form.Whole := by
  unfold closePart at h
  dsimp only at h
  generalize (octets.drop (g.delimiter.length + 1)).reverse = content at h
  obtain ⟨_, -, rfl⟩ := map_eq_ok_iff.1 h
  exact List.forall_mem_cons.2 ⟨part.whole_value g.charset content, whole⟩

theorem whole_readContent (whole : r.form.Whole) {part : Opened} {octets : Bytes} {found : Match}
    (h : r.readContent g part octets found b = .ok next) : next.form.Whole := by
  have went {found : Match} (h : r.goTo (.content part (b :: octets) found) = .ok next) :
      next.form.Whole := (leaves_goTo _ next h).symm ▸ whole
  unfold readContent at h
  dsimp only at h
  split at h
  · exact went h
  · exact went h
  · split at h
    · exact whole_closePart whole h
    · exact went h
  · split at h
    · exact whole_closePart whole h
    · exact went h

/-- Whatever the next octet is, every file in the form arrives whole. -/
theorem whole_step (whole : r.form.Whole) (h : r.step g b = .ok next) : next.form.Whole := by
  have left {outcome : Except FormFault Reader} (leaves : r.Leaves outcome)
      (h : outcome = .ok next) : next.form.Whole := (leaves next h).symm ▸ whole
  have stayed : r.Leaves (.ok r) := leaves_goTo r.place
  unfold step at h
  split at h
  case h_10 => exact whole_readContent whole h
  all_goals
    refine left ?_ h
    repeat' split
    all_goals first
      | exact leaves_goTo _ | exact leaves_error _ | exact stayed | exact leaves_readBoundary _
      | exact leaves_readName _ _ | exact leaves_readValue _ _ _ _ | exact leaves_openPart _

/-- Whatever was read, every file in the form arrives whole. -/
theorem whole_foldlM (octets : Bytes) (whole : r.form.Whole)
    (h : octets.foldlM (step g) r = .ok next) : next.form.Whole := by
  induction octets generalizing r with
  | nil =>
    cases h
    exact whole
  | cons b rest ih =>
    rw [List.foldlM_cons] at h
    obtain ⟨between, first, h⟩ := bind_eq_ok_iff.1 h
    exact ih (whole_step whole first) h

theorem finish_eq_ok {form : Form} (h : r.finish = .ok form) : form = r.form.reverse := by
  unfold finish at h
  split at h
  case h_1 part octets found place =>
    obtain ⟨_, -, rfl⟩ := map_eq_ok_iff.1 h
    rfl
  case h_2 =>
    cases h
    rfl

end Reader

theorem whole_form {g : Grammar} {octets : Bytes} {form : Form}
    (h : Multipart.form g octets = .ok form) : form.Whole := by
  unfold Multipart.form at h
  obtain ⟨last, read, h⟩ := bind_eq_ok_iff.1 h
  have whole : last.form.Whole := Reader.whole_foldlM octets (by nofun) read
  rw [Reader.finish_eq_ok h]
  exact fun row mem => whole row (List.mem_reverse.1 mem)

end Multipart

/-! ## Forms of requests -/

/-- A form that is written as one line holds no files. -/
theorem Urlencoded.whole_form {octets : Bytes} {form : Form}
    (h : Urlencoded.form octets = .ok form) : form.Whole := by
  have text (stretch : Stretch) : ∀ row, row? stretch = some row → row.2.Whole := by
    intro row found
    unfold row? at found
    repeat' split at found
    all_goals cases found <;> trivial
  unfold Urlencoded.form at h
  dsimp only at h
  split at h
  case isTrue => cases h
  case isFalse =>
    cases h
    intro row mem
    obtain ⟨stretch, -, found⟩ := List.mem_filterMap.1 mem
    exact text stretch row found

/-- Every file in the form of a request arrives whole. -/
theorem Request.whole_form {request : Request} {form : Form} (read : request.form = .ok form) :
    form.Whole := by
  unfold Request.form at read
  split at read
  case h_1 =>
    cases read
    exact nofun
  case h_2 contentType _ =>
    unfold Form.read at read
    dsimp only at read
    split at read
    case h_1 =>
      split at read
      case h_1 => cases read
      case h_2 => exact Multipart.whole_form read
    case h_2 => exact Urlencoded.whole_form read
    case h_3 =>
      cases read
      exact nofun

/-- Of a file in the form of a request all is delivered. -/
theorem Request.delivered_eq_content {request : Request} {form : Form}
    (read : request.form = .ok form) {name : String} {upload : Upload}
    (mem : upload ∈ form.uploads name) : Upload.delivered upload.reads = upload.content :=
  (whole_form read).delivered mem

end Web

end Splice
