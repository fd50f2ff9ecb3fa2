import Splice.Text.Utf8

/-!
# Octets below 0x80

An octet below 0x80 is a character of its own, so a text of such characters is read back from their
numbers (`Utf8.lossy_ofNumbers`). It is one wherever it stands: behind a sequence that is cut short as
well (`Utf8.lossy_concat_of_lt`).
-/

namespace Splice.Utf8

/-- The piece that an octet below 0x80 gives. -/
def plain (b : UInt8) : Piece := .char (Char.ofNat b.toNat) 1

/-- Between characters, octets below 0x80 give one piece each and leave nothing under way. -/
theorem foldl_step_of_lt {octets : Bytes} (low : ∀ b ∈ octets, b.toNat < 0x80)
    (found : List Piece) :
    octets.foldl Reader.step ⟨found, none⟩ = ⟨(octets.map plain).reverse ++ found, none⟩ := by
  induction octets generalizing found with
  | nil => rfl
  | cons b rest ih =>
    rw [List.forall_mem_cons] at low
    have step : Reader.step ⟨found, none⟩ b = ⟨plain b :: found, none⟩ := if_pos low.1
    rw [List.foldl_cons, step, ih low.2]
    simp

theorem pieces_of_lt {octets : Bytes} (low : ∀ b ∈ octets, b.toNat < 0x80) :
    pieces octets = octets.map plain := by
  rw [pieces, foldl_step_of_lt low, List.append_nil]
  exact List.reverse_reverse _

/-- A text of characters below 0x80 is read back from their numbers. -/
theorem lossy_ofNumbers {text : String} (low : ∀ c ∈ text.toList, c.toNat < 0x80) :
    lossy (Bytes.ofNumbers text) = text := by
  have number : ∀ c ∈ text.toList, c.toNat.toUInt8.toNat = c.toNat := fun c mem => by
    have small := low c mem
    simp
    omega
  have octets : ∀ b ∈ Bytes.ofNumbers text, b.toNat < 0x80 :=
    List.forall_mem_map.2 fun c mem => by rw [number c mem]; exact low c mem
  have back : (text.toList.map fun c => c.toNat.toUInt8).map (fun b => Char.ofNat b.toNat) =
      text.toList := by
    rw [List.map_map]
    refine (List.map_congr_left fun c mem => ?_).trans (List.map_id _)
    exact (congrArg Char.ofNat (number c mem)).trans (Char.ofNat_toNat c)
  rw [lossy, pieces_of_lt octets, Pieces.lossy, List.map_map]
  exact (congrArg String.ofList back).trans String.ofList_toList

/-! ## Behind other octets -/

/-- No octet below 0x80 goes on with what is under way. -/
def Reader.Sound (r : Reader) : Prop := ∀ p, r.pending = some p → 0x80 ≤ p.low

theorem low_of_opening? {b : UInt8} {p : Pending} (h : opening? b = some p) : 0x80 ≤ p.low := by
  unfold opening? at h
  grind

theorem Reader.sound_open (pieces : List Piece) (b : UInt8) : (Reader.open pieces b).Sound := by
  unfold Reader.open
  split
  case isTrue => exact nofun
  case isFalse =>
    split
    case h_2 => exact nofun
    case h_1 pending opened =>
      rintro _ ⟨⟩
      exact low_of_opening? opened

theorem Reader.sound_step (r : Reader) (b : UInt8) : (r.step b).Sound := by
  unfold Reader.step
  split
  case h_1 => exact sound_open _ b
  case h_2 p _ =>
    split
    case isTrue =>
      dsimp only
      split
      case isTrue => exact nofun
      case isFalse =>
        rintro _ ⟨⟩
        exact Nat.le_refl _
    case isFalse => exact sound_open _ b

theorem Reader.sound_foldl (octets : Bytes) : (octets.foldl Reader.step ⟨[], none⟩).Sound := by
  rcases List.eq_nil_or_concat octets with rfl | ⟨before, b, rfl⟩
  · exact nofun
  · rw [List.concat_eq_append, List.foldl_append]
    exact sound_step _ b

theorem Reader.map_toChar_finish_step {r : Reader} (sound : r.Sound) {b : UInt8}
    (low : b.toNat < 0x80) :
    (r.step b).finish.map Piece.toChar = r.finish.map Piece.toChar ++ [Char.ofNat b.toNat] := by
  obtain ⟨pieces, pending⟩ := r
  cases pending with
  | none => simp [Reader.step, Reader.open, Reader.finish, low, Piece.toChar]
  | some p =>
    have apart : ¬ p.low ≤ b.toNat := by
      have above := sound p rfl
      omega
    simp [Reader.step, Reader.open, Reader.finish, low, apart, Piece.toChar]

/-- An octet below 0x80 is one more character behind others, whatever they are. -/
theorem lossy_concat_of_lt (octets : Bytes) {b : UInt8} (low : b.toNat < 0x80) :
    lossy (octets ++ [b]) = lossy octets ++ String.ofList [Char.ofNat b.toNat] := by
  have last := Reader.map_toChar_finish_step (Reader.sound_foldl octets) low
  rw [lossy, lossy, pieces, pieces, List.foldl_append, List.foldl_cons, List.foldl_nil,
    Pieces.lossy, last, String.ofList_append]
  rfl

end Splice.Utf8
