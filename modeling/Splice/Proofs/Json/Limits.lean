import Mathlib.Data.List.Infix
import Mathlib.Data.List.TakeWhile
import Splice.Json.Reader
import Splice.Proofs.Number.Reading

/-!
# Texts beyond the limits of the reader

The reader of JSON refuses integers of too many digits, and lists and objects that nest deeper than
there is room for. A text is refused for its digits only if it has as many in a row
(`Json.hasRun_of_read`), and for its depth only if more lists and objects are open at once in it
than there is room for (`Json.lt_nesting_of_read`); in a text that is read no more are open than
that (`Json.nesting_le_of_read`). All three come from one induction over the reader, which goes
forward: `Json.Leaves` says what a step makes of the characters that it was given.

A text of nothing but too many digits is refused for them (`Json.read_of_digits`), and one of
nothing but opening brackets for the one that finds no room left (`Json.read_of_brackets`).
-/

namespace Splice.Json

/-! ## Digits in a row -/

/-- Whether some characters have a number of decimal digits in a row. -/
def HasRun (n : Nat) (cs : List Char) : Prop :=
  ∃ digits, digits.length = n ∧ (∀ c ∈ digits, c.isDigit) ∧ digits <:+: cs

theorem HasRun.mono {n : Nat} {cs more : List Char} (run : HasRun n cs) (inside : cs <:+: more) :
    HasRun n more := by
  obtain ⟨digits, count, all, within⟩ := run
  exact ⟨digits, count, all, within.trans inside⟩

theorem HasRun.le {n : Nat} {cs : List Char} (run : HasRun n cs) : n ≤ cs.length := by
  obtain ⟨digits, rfl, -, within⟩ := run
  exact within.length_le

/-! ## How deep a text goes -/

/-- The most lists and objects that are open at once in some characters, in front of which `level`
of them are open, and a string if `quoted` says so. Brackets in strings do not count. -/
def peak : (quoted : Bool) → (level : Nat) → List Char → Nat
  | _, level, [] => level
  | false, level, '"' :: rest => peak true level rest
  | false, level, '[' :: rest | false, level, '{' :: rest => peak false (level + 1) rest
  | false, level, ']' :: rest | false, level, '}' :: rest => max level (peak false (level - 1) rest)
  | true, level, '"' :: rest => peak false level rest
  | true, level, '\\' :: _ :: rest => peak true level rest
  | quoted, level, _ :: rest => peak quoted level rest

/-- The most lists and objects that are open at once in a text. -/
def nesting (s : String) : Nat := peak false 0 s.toList

/-- Whether a character is neither a quote nor a bracket. -/
def Plain (c : Char) : Prop := c ∉ ['"', '[', ']', '{', '}']

instance : DecidablePred Plain := fun _ => inferInstanceAs (Decidable (_ ∉ _))

theorem plain_of_isDigit {c : Char} (digit : c.isDigit) : Plain c := fun mem => by
  have none : ['"', '[', ']', '{', '}'].all fun c => !c.isDigit := by decide
  have other := List.all_eq_true.1 none c mem
  rw [digit] at other
  cases other

theorem peak_cons {c : Char} (plain : Plain c) (level : Nat) (rest : List Char) :
    peak false level (c :: rest) = peak false level rest := by
  simp only [Plain, List.mem_cons, List.not_mem_nil, or_false, not_or] at plain
  obtain ⟨quote, bracket, unbracket, brace, unbrace⟩ := plain
  rw [peak] <;> simp [*]

theorem le_peak (quoted : Bool) (level : Nat) (cs : List Char) : level ≤ peak quoted level cs := by
  fun_induction peak quoted level cs with
  | case1 => exact le_rfl
  | case3 _ _ ih | case4 _ _ ih => exact (Nat.le_succ _).trans ih
  | case5 | case6 => exact le_max_left _ _
  | _ => assumption

/-- Whether what remains of some characters stands behind plain ones. -/
def Passes (cs rest : List Char) : Prop := ∃ front, (∀ c ∈ front, Plain c) ∧ front ++ rest = cs

section

variable {cs mid rest : List Char} {c : Char}

theorem Passes.refl (cs : List Char) : Passes cs cs := ⟨[], by simp, rfl⟩

theorem Passes.cons (plain : Plain c) (passes : Passes cs rest) : Passes (c :: cs) rest := by
  obtain ⟨front, all, rfl⟩ := passes
  exact ⟨c :: front, List.forall_mem_cons.2 ⟨plain, all⟩, rfl⟩

theorem Passes.trans (first : Passes cs mid) (second : Passes mid rest) : Passes cs rest := by
  obtain ⟨front, all, rfl⟩ := first
  obtain ⟨more, all', rfl⟩ := second
  exact ⟨front ++ more, List.forall_mem_append.2 ⟨all, all'⟩, List.append_assoc _ _ _⟩

theorem Passes.suffix (passes : Passes cs rest) : rest <:+ cs :=
  passes.imp fun _ => And.right

theorem Passes.peak_eq (passes : Passes cs rest) (level : Nat) :
    peak false level cs = peak false level rest := by
  obtain ⟨front, all, rfl⟩ := passes
  induction front with
  | nil => rfl
  | cons c front ih =>
    rw [List.forall_mem_cons] at all
    rw [List.cons_append, peak_cons all.1, ih all.2]

end

/-! ## What a step makes of the characters -/

/-- What remains of some characters behind what a step has read of them with some room, where the
step has closed `closed` of the lists and objects that were open: what remains goes no deeper than
all of the characters do, and what was read goes no deeper than there is room for. -/
structure Behind (closed room : Nat) (cs rest : List Char) : Prop where
  suffix : rest <:+ cs
  peak_le (level : Nat) : peak false level rest ≤ peak false (level + closed) cs
  le_max (level : Nat) :
    peak false (level + closed) cs ≤ max (level + closed + room) (peak false level rest)

section

variable {closed room : Nat} {cs mid rest : List Char} {c : Char}

theorem Passes.behind (passes : Passes cs rest) : Behind 0 room cs rest where
  suffix := passes.suffix
  peak_le level := (passes.peak_eq level).ge
  le_max level := (passes.peak_eq level).le.trans (le_max_right _ _)

theorem Behind.trans (first : Behind 0 room cs mid) (second : Behind closed room mid rest) :
    Behind closed room cs rest where
  suffix := second.suffix.trans first.suffix
  peak_le level := (second.peak_le level).trans (first.peak_le (level + closed))
  le_max level := (first.le_max (level + closed)).trans
    (max_le (le_max_left _ _) (second.le_max level))

/-- Behind the bracket that closes what is open. -/
theorem behind_closed (closes : c = ']' ∨ c = '}') : Behind 1 room (c :: rest) rest := by
  have same (level : Nat) : peak false (level + 1) (c :: rest) =
      max (level + 1) (peak false level rest) := by
    rcases closes with rfl | rfl <;> rw [peak, Nat.add_sub_cancel]
  refine ⟨List.suffix_cons _ _, fun level => ?_, fun level => ?_⟩
  · exact same level ▸ le_max_right _ _
  · rw [same]
    omega

theorem peak_opened (opens : c = '[' ∨ c = '{') (level : Nat) :
    peak false level (c :: cs) = peak false (level + 1) cs := by
  rcases opens with rfl | rfl <;> rw [peak]

/-- Behind what a bracket has opened. -/
theorem Behind.opened (opens : c = '[' ∨ c = '{') (behind : Behind 1 room cs rest) :
    Behind 0 (room + 1) (c :: cs) rest := by
  refine ⟨behind.suffix.trans (List.suffix_cons _ _), fun level => ?_, fun level => ?_⟩
  · exact (behind.peak_le level).trans (peak_opened opens level).ge
  · rw [Nat.add_zero, peak_opened opens, Nat.add_comm room, ← Nat.add_assoc]
    exact behind.le_max level

end

/-- What a step makes of some characters that it reads with some room. It leaves what stands behind
all that it has read; or it stops at an integer that is too long, and then as many digits stand in a
row in them; or at a bracket that finds no room, and then they go deeper than that. -/
def Leaves {α : Type} (closed room : Nat) (cs : List Char) : Step α → Prop
  | .ok (_, rest) => Behind closed room cs rest
  | .error (.fault _ _) => True
  | .error (.longInteger n) => mostDigits < n ∧ HasRun n cs
  | .error (.tooDeep _) => ∀ level, level + closed + room < peak false (level + closed) cs

section

variable {α β : Type} {closed room : Nat} {cs mid rest : List Char} {step : Step α} {c : Char}

theorem leaves_refuse (reason : Reason) (rest : List Char) :
    Leaves closed room cs (refuse reason rest : Step α) := trivial

theorem Leaves.of_behind (h : Leaves closed room mid step) (first : Behind 0 room cs mid) :
    Leaves closed room cs step := by
  match step, h with
  | .ok _, behind => exact first.trans behind
  | .error (.fault _ _), _ => trivial
  | .error (.longInteger _), ⟨many, run⟩ => exact ⟨many, run.mono first.suffix.isInfix⟩
  | .error (.tooDeep _), deep => exact fun level => (deep level).trans_le (first.peak_le _)

theorem Leaves.of_error {stop : Stop} (h : Leaves 0 room cs (.error stop : Step α)) :
    Leaves closed room cs (.error stop : Step β) := by
  match stop, h with
  | .fault _ _, _ => trivial
  | .longInteger _, stopped => exact stopped
  | .tooDeep _, deep => exact fun level => deep (level + closed)

/-- What a step makes of what a bracket opens. -/
theorem Leaves.opened (opens : c = '[' ∨ c = '{') (h : Leaves 1 room cs step) :
    Leaves 0 (room + 1) (c :: cs) step := by
  match step, h with
  | .ok _, behind => exact Behind.opened opens behind
  | .error (.fault _ _), _ => trivial
  | .error (.longInteger _), ⟨many, run⟩ => exact ⟨many, run.mono (List.suffix_cons _ _).isInfix⟩
  | .error (.tooDeep _), deep =>
    intro level
    rw [Nat.add_zero, peak_opened opens, Nat.add_comm room, ← Nat.add_assoc]
    exact deep level

theorem Leaves.map (h : Leaves 0 room cs step) (f : α → β) :
    Leaves 0 room cs (step.map fun (a, rest) => (f a, rest)) := by
  match step, h with
  | .ok _, behind => exact behind
  | .error _, stopped => exact stopped.of_error

/-- A bracket for which there is no room goes too deep. -/
theorem leaves_tooDeep (opens : c = '[' ∨ c = '{') (nested : Nested) :
    Leaves 0 0 (c :: cs) (.error (.tooDeep nested) : Step α) := fun level => by
  show level < peak false level (c :: cs)
  rw [peak_opened opens]
  exact le_peak false (level + 1) cs

end

/-! ## The parts of a text -/

theorem passes_skip (cs : List Char) : Passes cs (skip cs) := by
  refine ⟨cs.takeWhile isSpace, fun c mem => ?_, List.takeWhile_append_dropWhile⟩
  have space := List.mem_takeWhile_imp mem
  simp only [isSpace, Bool.or_eq_true, beq_iff_eq] at space
  rcases space with ((rfl | rfl) | rfl) | rfl <;> decide

theorem peak_quoted {c : Char} (quote : c ≠ '"') (escape : c ≠ '\\') (level : Nat)
    (rest : List Char) : peak true level (c :: rest) = peak true level rest := by
  rw [peak] <;> simp [quote, escape]

theorem peak_hexUnit {a b c d : Char} {unit : Nat} (written : hexUnit? a b c d = some unit)
    (level : Nat) (rest : List Char) :
    peak true level ('\\' :: 'u' :: a :: b :: c :: d :: rest) = peak true level rest := by
  have plain {e : Char} {n : Nat} (digit : Text.hexValue? e = some n) : e ≠ '"' ∧ e ≠ '\\' := by
    constructor <;> rintro rfl <;> cases digit
  obtain ⟨_, a', written⟩ := Option.bind_eq_some_iff.1 written
  obtain ⟨_, b', written⟩ := Option.bind_eq_some_iff.1 written
  obtain ⟨_, c', written⟩ := Option.bind_eq_some_iff.1 written
  obtain ⟨_, d', -⟩ := Option.bind_eq_some_iff.1 written
  rw [peak, peak_quoted (plain a').1 (plain a').2, peak_quoted (plain b').1 (plain b').2,
    peak_quoted (plain c').1 (plain c').2, peak_quoted (plain d').1 (plain d').2]

/-- What the reading of a string makes of what stands behind its opening quote: it ends behind the
closing one, whatever is escaped in between, or is at fault. -/
def LeavesQuoted (cs : List Char) : Step String → Prop
  | .ok (_, rest) => rest <:+ cs ∧ ∀ level, peak true level cs = peak false level rest
  | .error (.fault _ _) => True
  | .error _ => False

theorem LeavesQuoted.mono {cs mid : List Char} {step : Step String} (h : LeavesQuoted mid step)
    (last : mid <:+ cs) (same : ∀ level, peak true level cs = peak true level mid) :
    LeavesQuoted cs step := by
  match step, h with
  | .ok _, ⟨suffix, ended⟩ =>
    exact ⟨suffix.trans last, fun level => (same level).trans (ended level)⟩
  | .error (.fault _ _), _ => trivial

theorem leavesQuoted_scanString (start : Nat) (done cs : List Char) :
    LeavesQuoted cs (scanString start done cs) := by
  fun_induction scanString start done cs with
  | case2 => exact ⟨List.suffix_cons _ _, fun level => by rw [peak]⟩
  | case6 | case7 | case8 | case10 =>
    rename_i ih
    exact ih.mono (by simp [List.suffix_cons_iff])
      fun level => by simp (disch := assumption) only [peak_hexUnit]
  | case13 =>
    rename_i ih
    exact ih.mono (by simp [List.suffix_cons_iff]) fun level => by rw [peak]
  | case15 _ c rest quote last _ _ _ escape _ ih =>
    have other : c ≠ '\\' := fun same => by
      cases rest with
      | nil => exact last same rfl
      | cons letter rest => exact escape letter rest same rfl
    exact ih.mono (List.suffix_cons _ _) fun level => peak_quoted quote other level rest
  | _ => trivial

/-- What the reading of a string makes of it, with its opening quote. -/
theorem leaves_scanString {room : Nat} (start : Nat) (done cs : List Char) :
    Leaves 0 room ('"' :: cs) (scanString start done cs) := by
  have quoted := leavesQuoted_scanString start done cs
  match scanString start done cs, quoted with
  | .ok (_, rest), ⟨suffix, ended⟩ =>
    have opened (level : Nat) : peak false level ('"' :: cs) = peak false level rest := by
      rw [peak, ended]
    exact ⟨suffix.trans (List.suffix_cons _ _), fun level => (opened level).ge,
      fun level => (opened level).le.trans (le_max_right _ _)⟩
  | .error (.fault _ _), _ => trivial

theorem scanDigits_eq {cs digits rest : List Char} (found : scanDigits cs = (digits, rest)) :
    (∀ c ∈ digits, c.isDigit) ∧ digits ++ rest = cs := by
  cases found
  exact ⟨fun c mem => List.mem_takeWhile_imp mem, List.takeWhile_append_dropWhile⟩

theorem passes_of_scanDigits {cs digits rest : List Char}
    (found : scanDigits cs = (digits, rest)) : Passes cs rest := by
  obtain ⟨all, same⟩ := scanDigits_eq found
  exact ⟨digits, fun c mem => plain_of_isDigit (all c mem), same⟩

theorem passes_scanFraction (cs : List Char) : Passes cs (scanFraction cs).2 := by
  unfold scanFraction
  split
  case h_1 rest =>
    split
    case h_1 => exact .refl _
    case h_2 digits behind _ found => exact (passes_of_scanDigits found).cons (by decide)
  case h_2 => exact .refl _

theorem passes_scanExponent (cs : List Char) : Passes cs (scanExponent cs).2 := by
  cases cs with
  | nil => exact .refl _
  | cons e rest =>
    unfold scanExponent
    dsimp only
    split
    case isFalse => exact .refl _
    case isTrue letter =>
      have plain : Plain e := by
        rw [Bool.or_eq_true, beq_iff_eq, beq_iff_eq] at letter
        rcases letter with rfl | rfl <;> decide
      split
      case h_1 => exact .refl _
      case h_2 digits behind _ found =>
        refine Passes.cons plain (Passes.trans ?_ (passes_of_scanDigits found))
        split
        · exact .cons (by decide) (.refl _)
        · exact .cons (by decide) (.refl _)
        · exact .refl _

theorem leaves_of_scanNumber? {room : Nat} {cs : List Char} {step : Step Json}
    (scanned : scanNumber? cs = some step) : Leaves 0 room cs step := by
  unfold scanNumber? at scanned
  dsimp only at scanned
  split at scanned
  case h_1 => cases scanned
  case h_2 digits rest _ whole =>
    obtain ⟨all, signed⟩ : (∀ c ∈ digits, c.isDigit) ∧ Passes cs (digits ++ rest) := by
      split at whole
      case h_1 behind unsigned =>
        cases whole
        refine ⟨by simp, ?_⟩
        rw [List.singleton_append, ← unsigned]
        split
        · exact .cons (by decide) (.refl _)
        · exact .refl _
      case h_2 =>
        obtain ⟨all, same⟩ := scanDigits_eq whole
        refine ⟨all, ?_⟩
        rw [same]
        split
        · exact .cons (by decide) (.refl _)
        · exact .refl _
    have behind : Passes cs rest :=
      signed.trans ⟨digits, fun c mem => plain_of_isDigit (all c mem), rfl⟩
    have last := (behind.trans (passes_scanFraction rest)).trans (passes_scanExponent _)
    split at scanned
    case isTrue =>
      split at scanned
      case isTrue many =>
        cases scanned
        exact ⟨many, digits, rfl, all,
          (List.prefix_append _ _).isInfix.trans signed.suffix.isInfix⟩
      case isFalse =>
        cases scanned
        exact last.behind
    case isFalse =>
      cases scanned
      exact last.behind

theorem leaves_scanAtom {room : Nat} (cs : List Char) : Leaves 0 room cs (scanAtom cs) := by
  unfold scanAtom
  split
  case h_1 name value found =>
    have plain : literals.all fun row => row.1.all fun c => decide (Plain c) := by decide
    have all := List.all_eq_true.1 plain _ (List.mem_of_find?_eq_some found)
    have starts := List.find?_some found
    replace starts : name.isPrefixOf cs = true := starts
    refine Passes.behind ⟨name, fun c mem => ?_, ?_⟩
    · exact of_decide_eq_true (List.all_eq_true.1 all c mem)
    · exact (List.prefix_append_drop (List.isPrefixOf_iff_prefix.1 starts)).symm
  case h_2 =>
    cases scanned : scanNumber? cs with
    | none => exact leaves_refuse .value cs
    | some step => exact leaves_of_scanNumber? scanned

/-! ## Values -/

section

variable {depth : Nat} (value : ∀ room cs, Leaves 0 room cs (scanValue depth room cs))
  (items : ∀ room done cs, Leaves 1 room cs (scanItems depth room done cs))
  (fields : ∀ room done cs, Leaves 1 room cs (scanFields depth room done cs))

include items fields in
theorem leaves_scanValue_succ (room : Nat) (cs : List Char) :
    Leaves 0 room cs (scanValue (depth + 1) room cs) := by
  unfold scanValue
  split
  case h_1 rest => exact (leaves_scanString _ _ rest).map Json.text
  case h_2 rest =>
    have opens : '[' = '[' ∨ '[' = '{' := .inl rfl
    cases room with
    | zero => exact leaves_tooDeep opens .list
    | succ room =>
      refine Leaves.opened opens (Leaves.of_behind ?_ (passes_skip rest).behind)
      dsimp only
      split
      case h_1 last found => exact found ▸ behind_closed (.inl rfl)
      case h_2 => exact items room [] _
  case h_3 rest =>
    have opens : '{' = '[' ∨ '{' = '{' := .inr rfl
    cases room with
    | zero => exact leaves_tooDeep opens .object
    | succ room =>
      refine Leaves.opened opens (Leaves.of_behind ?_ (passes_skip rest).behind)
      dsimp only
      split
      case h_1 last found => exact found ▸ behind_closed (.inr rfl)
      case h_2 => exact fields room [] _
  case h_4 => exact leaves_scanAtom cs

include value items in
theorem leaves_scanItems_succ (room : Nat) (done : List Json) (cs : List Char) :
    Leaves 1 room cs (scanItems (depth + 1) room done cs) := by
  have item := value room cs
  unfold scanItems
  cases scanned : scanValue depth room cs with
  | error stop =>
    rw [scanned] at item
    exact item.of_error
  | ok read =>
    rw [scanned] at item
    have behind : Behind 0 room cs (skip read.2) := Behind.trans item (passes_skip read.2).behind
    dsimp only
    split
    case h_1 last found => exact behind.trans (found ▸ behind_closed (.inl rfl))
    case h_2 last found =>
      have next : Passes (skip read.2) (skip last) :=
        found ▸ (passes_skip last).cons (by decide)
      exact (items room _ _).of_behind (behind.trans next.behind)
    case h_3 => exact leaves_refuse .comma _

include value fields in
theorem leaves_scanFields_succ (room : Nat) (done : Fields) (cs : List Char) :
    Leaves 1 room cs (scanFields (depth + 1) room done cs) := by
  unfold scanFields
  split
  case h_1 rest =>
    have quoted := @leaves_scanString room ('"' :: rest).length [] rest
    split
    case h_1 stop scanned =>
      rw [scanned] at quoted
      exact quoted.of_error
    case h_2 name behind scanned =>
      rw [scanned] at quoted
      have behind : Behind 0 room ('"' :: rest) (skip behind) :=
        Behind.trans quoted (passes_skip behind).behind
      split
      case h_1 rest found =>
        have next : Passes (skip _) (skip rest) := found ▸ (passes_skip rest).cons (by decide)
        have given := (value room (skip rest)).of_behind (behind.trans next.behind)
        split
        case h_1 stop scanned =>
          rw [scanned] at given
          exact given.of_error
        case h_2 read last scanned =>
          rw [scanned] at given
          have behind : Behind 0 room _ (skip last) := Behind.trans given (passes_skip last).behind
          split
          case h_1 rest found => exact behind.trans (found ▸ behind_closed (.inr rfl))
          case h_2 rest found =>
            have next : Passes (skip last) (skip rest) :=
              found ▸ (passes_skip rest).cons (by decide)
            exact (fields room _ _).of_behind (behind.trans next.behind)
          case h_3 => exact leaves_refuse .comma _
      case h_2 => exact leaves_refuse .colon _
  case h_2 => exact leaves_refuse .propertyName _

end

/-- What is made of a value, of the items of a list and of the fields of an object. -/
theorem leaves_scan (depth : Nat) :
    (∀ room cs, Leaves 0 room cs (scanValue depth room cs)) ∧
      (∀ room done cs, Leaves 1 room cs (scanItems depth room done cs)) ∧
        ∀ room done cs, Leaves 1 room cs (scanFields depth room done cs) := by
  induction depth with
  | zero => exact ⟨fun _ _ => trivial, fun _ _ _ => trivial, fun _ _ _ => trivial⟩
  | succ depth ih =>
    obtain ⟨value, items, fields⟩ := ih
    exact ⟨leaves_scanValue_succ items fields, leaves_scanItems_succ value items,
      leaves_scanFields_succ value fields⟩

/-! ## Whole texts -/

/-- What the reading of a text with some room tells about the text. -/
def Tells (room : Nat) (s : String) : Except Refusal Json → Prop
  | .ok _ => nesting s ≤ room
  | .error (.fault _) => True
  | .error (.longInteger n) => mostDigits < n ∧ HasRun n s.toList
  | .error (.tooDeep _) => room < nesting s

theorem tells_read (room : Nat) (s : String) : Tells room s (read room s) := by
  have value := ((leaves_scan (2 * s.toList.length + 2)).1 room (skip s.toList)).of_behind
    (passes_skip s.toList).behind
  unfold read
  split
  case isTrue => trivial
  case isFalse =>
    unfold readUnmarked scanText
    split
    case h_1 stop stopped =>
      rw [stopped] at value
      match stop, value with
      | .fault _ _, _ => trivial
      | .longInteger _, run => exact run
      | .tooDeep _, deep => exact (Nat.zero_add room).symm.trans_lt (deep 0)
    case h_2 a rest scanned =>
      rw [scanned] at value
      split
      case h_1 ended =>
        have last := value.le_max 0
        rw [(passes_skip rest).peak_eq, ended, peak, Nat.max_zero] at last
        exact last.trans_eq (Nat.zero_add room)
      case h_2 => trivial

section

variable {room : Nat} {s : String}

/-- In a text that is read no more lists and objects are open at once than there is room for. -/
theorem nesting_le_of_read {value : Json} (given : read room s = .ok value) :
    nesting s ≤ room := by
  have tells := tells_read room s
  rwa [given] at tells

/-- A text that is refused for an integer of too many digits has as many in a row. -/
theorem hasRun_of_read {n : Nat} (refused : read room s = .error (.longInteger n)) :
    mostDigits < n ∧ HasRun n s.toList := by
  have tells := tells_read room s
  rwa [refused] at tells

/-- In a text that is refused for its depth more lists and objects are open at once than there is
room for. -/
theorem lt_nesting_of_read {nested : Nested} (refused : read room s = .error (.tooDeep nested)) :
    room < nesting s := by
  have tells := tells_read room s
  rwa [refused] at tells

end

/-! ## Texts that are beyond a limit -/

section

variable {room : Nat} {digits : List Char} (all : ∀ c ∈ digits, c.isDigit)
include all

theorem find?_literals_of_digits :
    (literals.find? fun (name, _) => name.isPrefixOf digits) = none := by
  have plain : literals.all fun row => row.1.any fun c => !c.isDigit := by decide
  rw [List.find?_eq_none]
  rintro ⟨name, value⟩ mem starts
  obtain ⟨c, inside, other⟩ := List.any_eq_true.1 (List.all_eq_true.1 plain _ mem)
  rw [all c ((List.isPrefixOf_iff_prefix.1 starts).subset inside)] at other
  cases other

theorem scanNumber?_of_digits (first : digits.head? ≠ some '0')
    (many : mostDigits < digits.length) :
    scanNumber? digits = some (.error (.longInteger digits.length)) := by
  have scanned : scanDigits digits = (digits, []) := by
    rw [scanDigits, List.takeWhile_eq_self_iff.2 all, List.dropWhile_eq_nil_iff.2 all]
  obtain ⟨c, rest, rfl⟩ := List.exists_cons_of_length_pos (Nat.zero_lt_of_lt many)
  have unsigned : c ≠ '-' := Number.ne_of_isDigit (all c List.mem_cons_self) rfl
  have nonzero : c ≠ '0' := fun same => first (congrArg some same)
  have many : mostDigits < rest.length + 1 := many
  simp [scanNumber?, unsigned, nonzero, scanned, scanFraction, scanExponent, many]

/-- A text of nothing but too many digits is refused for them. -/
theorem read_of_digits (first : digits.head? ≠ some '0') (many : mostDigits < digits.length) :
    read room (String.ofList digits) = .error (.longInteger digits.length) := by
  obtain ⟨c, rest, rfl⟩ := List.exists_cons_of_length_pos (Nat.zero_lt_of_lt many)
  have digit := all c List.mem_cons_self
  have scanned : scanValue (2 * (c :: rest).length + 2) room (skip (c :: rest)) =
      .error (.longInteger (c :: rest).length) := by
    have quote : c ≠ '"' := Number.ne_of_isDigit digit rfl
    have bracket : c ≠ '[' := Number.ne_of_isDigit digit rfl
    have brace : c ≠ '{' := Number.ne_of_isDigit digit rfl
    have solid : isSpace c = false := by
      have apart (other : Char) (plain : other.isDigit = false) : (c == other) = false :=
        beq_eq_false_iff_ne.2 (Number.ne_of_isDigit digit plain)
      rw [isSpace, apart _ rfl, apart _ rfl, apart _ rfl, apart _ rfl]
      rfl
    have skipped : skip (c :: rest) = c :: rest := List.dropWhile_cons_of_neg (by simp [solid])
    rw [skipped, scanValue, scanAtom, find?_literals_of_digits all,
      scanNumber?_of_digits all first many, Option.getD_some] <;> simp [quote, bracket, brace]
  have unmarked : c ≠ '\uFEFF' := Number.ne_of_isDigit digit rfl
  rw [read, readUnmarked, String.toList_ofList, scanText, scanned, List.head?_cons,
    if_neg (by simpa using unmarked)]
  rfl

end

theorem skip_bracket (cs : List Char) : skip ('[' :: cs) = '[' :: cs :=
  List.dropWhile_cons_of_neg (by decide)

theorem scanValue_of_brackets {room depth : Nat} (enough : 2 * room < depth) (more : List Char) :
    scanValue depth room (List.replicate (room + 1) '[' ++ more) = .error (.tooDeep .list) := by
  induction room generalizing depth with
  | zero =>
    obtain ⟨depth, rfl⟩ := Nat.exists_eq_succ_of_ne_zero (Nat.ne_zero_of_lt enough)
    rw [List.replicate_succ, List.cons_append, scanValue]
  | succ room ih =>
    obtain ⟨depth, rfl⟩ : ∃ fewer, depth = fewer + 2 := ⟨depth - 2, by omega⟩
    have inner := @ih depth (by omega)
    rw [List.replicate_succ, List.cons_append] at inner ⊢
    rw [List.replicate_succ, List.cons_append, scanValue, skip_bracket]
    show scanItems (depth + 1) room [] ('[' :: (List.replicate room '[' ++ more)) = _
    rw [scanItems, inner]

/-- A text that begins with more opening brackets than there is room for is refused at the one that
finds none left, whatever stands behind it. -/
theorem read_of_brackets (room : Nat) (more : List Char) :
    read room (String.ofList (List.replicate (room + 1) '[' ++ more)) =
      .error (.tooDeep .list) := by
  have enough : 2 * room < 2 * (List.replicate (room + 1) '[' ++ more).length + 2 := by
    rw [List.length_append, List.length_replicate]
    omega
  have scanned := scanValue_of_brackets enough more
  rw [List.replicate_succ, List.cons_append] at scanned ⊢
  rw [read, readUnmarked, String.toList_ofList, List.head?_cons, if_neg (by decide), scanText,
    skip_bracket, scanned]
  rfl

end Splice.Json
