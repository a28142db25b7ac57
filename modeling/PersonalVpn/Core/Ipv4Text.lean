import Mathlib.Data.List.TakeWhile
import Mathlib.Tactic.IntervalCases
import Mathlib.Tactic.SplitIfs
import PersonalVpn.Core.AddressText
import PersonalVpn.Lib.Decimal

namespace PersonalVpn.Core

/-- `format_ipv4_address` -/
def formatIpv4Address (a : Ipv4Address) : Bytes :=
  let octet (i : Nat) := toText (byteAt a.toList i).toNat
  octet 0 ++ text "." ++ octet 1 ++ text "." ++ octet 2 ++ text "." ++ octet 3

/-- A function on a text that it reads by index. Reading behind the end of the text gives `none`. -/
abbrev TextReader := ExceptT Exception Option

/-- The characters from `first` up to `last`. -/
def readRange (s : Bytes) (first last : Nat) : TextReader Bytes :=
  if first ≤ last ∧ last ≤ s.length then pure ((s.drop first).take (last - first))
  else (none : Option (Except Exception Bytes))

/-- `std::string::find` -/
def find (s : Bytes) (c : UInt8) (first : Nat) : Option Nat :=
  ((s.drop first).findIdx? (· = c)).map (first + ·)

/-- The loop of `parse_ipv4_address` with its index `begin`. -/
def parseIpv4ComponentsAt (s : Bytes) : Nat → Nat → TextReader Bytes
  | 0, _ => pure []
  | components + 1, first =>
    let last := find s 46 first
    let componentEnd := last.getD s.length
    if componentEnd = first then
      throw (.invalidArgument (text "IPv4 address contains an empty component"))
    else do
      let component ← readRange s first componentEnd
      match fromChars 32 component with
      | some (value, []) =>
        if value > 255 then
          throw (.invalidArgument (text "IPv4 address contains an invalid component"))
        else
          match components, last with
          | 0, none => return [UInt8.ofNat value]
          | 0, some _ => throw (.invalidArgument (text "IPv4 address has too many components"))
          | _ + 1, none => throw (.invalidArgument (text "IPv4 address has too few components"))
          | components + 1, some last => do
            let others ← parseIpv4ComponentsAt s (components + 1) (last + 1)
            return UInt8.ofNat value :: others
      | _ => throw (.invalidArgument (text "IPv4 address contains an invalid component"))

/-- `parse_ipv4_address`, reading its text by index. -/
def parseIpv4AddressAt (s : Bytes) : TextReader Ipv4Address := do
  let components ← parseIpv4ComponentsAt s 4 0
  return copyN components 0 4

/-! ### The grammar -/

/-- A component of one or more digits with the value of the byte. -/
structure Spells (component : Bytes) (b : UInt8) : Prop where
  nonempty : component ≠ []
  digits : ∀ d ∈ component, Decimal.IsDigit d
  value : Decimal.value component = b.toNat

/-- Components that spell the bytes, separated by dots. -/
inductive Dotted : Bytes → List UInt8 → Prop where
  | last {component : Bytes} {b : UInt8} (spells : Spells component b) : Dotted component [b]
  | dot {component rest : Bytes} {b : UInt8} {bs : List UInt8} (spells : Spells component b)
      (others : Dotted rest bs) : Dotted (component ++ 46 :: rest) (b :: bs)

/-! ### One component -/

theorem fromChars_eq (width : Nat) (s : Bytes) :
    fromChars width s =
      let digits := s.takeWhile (fun b => decide (Decimal.IsDigit b))
      if digits = [] ∨ Decimal.value digits ≥ 2 ^ width then none
      else some (Decimal.value digits, s.dropWhile (fun b => decide (Decimal.IsDigit b))) := by
  have hvalue (digits : Bytes) :
      digits.foldl (fun value digit => value * 10 + (digit.toNat - 48)) 0 = Decimal.value digits := by
    rw [Decimal.foldl_eq, Nat.zero_mul, Nat.zero_add]
  simp only [← hvalue]
  rfl

/-- `from_chars` reads all of a text exactly if it is a numeral within the width. -/
theorem fromChars_all_iff {width : Nat} {s : Bytes} {value : Nat} :
    fromChars width s = some (value, []) ↔
      s ≠ [] ∧ (∀ d ∈ s, Decimal.IsDigit d) ∧ value = Decimal.value s ∧ value < 2 ^ width := by
  rw [fromChars_eq]
  dsimp only
  by_cases hdigits : ∀ d ∈ s, Decimal.IsDigit d
  · have hall : ∀ d ∈ s, decide (Decimal.IsDigit d) = true := by simpa using hdigits
    rw [List.takeWhile_eq_self_iff.mpr hall, List.dropWhile_eq_nil_iff.mpr hall]
    split_ifs with hno
    · simp only [false_iff]
      intro h
      obtain ⟨hne, -, hvalue, hlt⟩ := h
      obtain hnil | hge := hno
      · exact hne hnil
      · omega
    · rw [not_or, ge_iff_le, not_le] at hno
      simp only [Option.some.injEq, Prod.mk.injEq, and_true]
      constructor
      · intro hvalue
        exact ⟨hno.1, hdigits, hvalue.symm, by omega⟩
      · intro h
        exact h.2.2.1.symm
  · have hdrop : s.dropWhile (fun b => decide (Decimal.IsDigit b)) ≠ [] := by
      intro hnil
      apply hdigits
      simpa using List.dropWhile_eq_nil_iff.mp hnil
    split_ifs
    · simp [hdigits]
    · simp [hdigits, hdrop]

/-- What the loop accepts as a component. -/
theorem spells_iff {component : Bytes} {b : UInt8} :
    Spells component b ↔ component ≠ [] ∧
      ∃ value, fromChars 32 component = some (value, []) ∧ value ≤ 255 ∧ b = UInt8.ofNat value := by
  constructor
  · intro h
    have hb := b.toNat_lt
    refine ⟨h.nonempty, b.toNat, ?_, by omega, by simp⟩
    exact fromChars_all_iff.mpr ⟨h.nonempty, h.digits, h.value.symm, by omega⟩
  · intro h
    obtain ⟨hne, value, hread, hle, hb⟩ := h
    obtain ⟨-, hdigits, hvalue, -⟩ := fromChars_all_iff.mp hread
    refine ⟨hne, hdigits, ?_⟩
    rw [hb, ← hvalue, UInt8.toNat_ofNat']
    omega

theorem Spells.dot_not_mem {component : Bytes} {b : UInt8} (h : Spells component b) :
    46 ∉ component := by
  intro hmem
  have hdot := h.digits 46 hmem
  revert hdot
  decide

/-! ### All components -/

theorem takeWhile_append_cons {p : Bytes} (hp : 46 ∉ p) (rest : Bytes) :
    (p ++ 46 :: rest).takeWhile (· ≠ 46) = p ∧ (p ++ 46 :: rest).dropWhile (· ≠ 46) = 46 :: rest := by
  induction p with
  | nil => simp
  | cons b p ih =>
    have hne : b ≠ 46 := fun hb => hp (by simp [hb])
    have hp' : 46 ∉ p := fun hmem => hp (List.mem_cons_of_mem _ hmem)
    obtain ⟨htake, hdrop⟩ := ih hp'
    simp only [List.cons_append]
    constructor
    · rw [List.takeWhile_cons_of_pos (by simpa using hne), htake]
    · rw [List.dropWhile_cons_of_pos (by simpa using hne), hdrop]

theorem exists_spells_iff {component : Bytes} {P : UInt8 → Prop} :
    (∃ b, Spells component b ∧ P b) ↔ component ≠ [] ∧
      ∃ value, fromChars 32 component = some (value, []) ∧ value ≤ 255 ∧ P (UInt8.ofNat value) := by
  constructor
  · intro h
    obtain ⟨b, hspells, hb⟩ := h
    obtain ⟨hne, value, hread, hle, rfl⟩ := spells_iff.mp hspells
    exact ⟨hne, value, hread, hle, hb⟩
  · intro h
    obtain ⟨hne, value, hread, hle, hb⟩ := h
    exact ⟨UInt8.ofNat value, spells_iff.mpr ⟨hne, value, hread, hle, rfl⟩, hb⟩

/-- The first component ends at the first dot. -/
theorem dotted_iff {s bs : Bytes} :
    Dotted s bs ↔ ∃ b, Spells (s.takeWhile (· ≠ 46)) b ∧
      ((s.dropWhile (· ≠ 46) = [] ∧ bs = [b]) ∨
        ∃ dot rest others, s.dropWhile (· ≠ 46) = dot :: rest ∧ Dotted rest others ∧
          bs = b :: others) := by
  constructor
  · intro h
    cases h with
    | @last _ b spells =>
      have hall : ∀ d ∈ s, decide (d ≠ 46) = true := by
        intro d hd
        have hne : d ≠ 46 := fun hdot => spells.dot_not_mem (hdot ▸ hd)
        simpa using hne
      rw [List.takeWhile_eq_self_iff.mpr hall, List.dropWhile_eq_nil_iff.mpr hall]
      exact ⟨b, spells, .inl ⟨rfl, rfl⟩⟩
    | @dot component rest b others spells more =>
      obtain ⟨htake, hdrop⟩ := takeWhile_append_cons spells.dot_not_mem rest
      rw [htake, hdrop]
      exact ⟨b, spells, .inr ⟨46, rest, others, rfl, more, rfl⟩⟩
  · intro h
    obtain ⟨b, hspells, hcases⟩ := h
    have hsplit : s.takeWhile (· ≠ 46) ++ s.dropWhile (· ≠ 46) = s := List.takeWhile_append_dropWhile
    obtain ⟨hdrop, rfl⟩ | ⟨dot, rest, others, hdrop, hothers, rfl⟩ := hcases
    · rw [hdrop, List.append_nil] at hsplit
      rw [hsplit] at hspells
      exact .last hspells
    · have hdot : dot = 46 := by
        have hhead := List.head?_dropWhile_not (fun b : UInt8 => decide (b ≠ 46)) s
        rw [hdrop] at hhead
        simpa using hhead
      rw [← hsplit, hdrop, hdot]
      exact .dot hspells hothers

/-- One round of the loop. -/
theorem parseIpv4Components_succ_ok_iff {n : Nat} {s bs : Bytes} :
    parseIpv4Components (n + 1) s = .ok bs ↔
      ∃ b, Spells (s.takeWhile (· ≠ 46)) b ∧
        ((n = 0 ∧ s.dropWhile (· ≠ 46) = [] ∧ bs = [b]) ∨
          ∃ dot rest others, n ≠ 0 ∧ s.dropWhile (· ≠ 46) = dot :: rest ∧
            parseIpv4Components n rest = .ok others ∧ bs = b :: others) := by
  rw [parseIpv4Components, throwIf_bind_ok, exists_spells_iff]
  refine and_congr_right fun _ => ?_
  cases hread : fromChars 32 (s.takeWhile (· ≠ 46)) with
  | none => simp [throw, throwThe, MonadExceptOf.throw]
  | some r =>
    obtain ⟨value, behind⟩ := r
    cases behind with
    | cons c behind => simp [throw, throwThe, MonadExceptOf.throw]
    | nil =>
      have hvalue {P : Nat → Prop} :
          (∃ v, some (value, ([] : Bytes)) = some (v, []) ∧ v ≤ 255 ∧ P v) ↔ value ≤ 255 ∧ P value := by
        simp
      rw [hvalue, throwIf_bind_ok, gt_iff_lt, not_lt]
      refine and_congr_right fun _ => ?_
      cases n with
      | zero =>
        cases s.dropWhile (· ≠ 46) with
        | nil => simp [pure, Except.pure, eq_comm]
        | cons dot rest => simp [throw, throwThe, MonadExceptOf.throw]
      | succ n =>
        cases s.dropWhile (· ≠ 46) with
        | nil => simp [throw, throwThe, MonadExceptOf.throw]
        | cons dot rest =>
          simp only [bind_eq_ok]
          simp [pure, Except.pure, eq_comm]

/-- The loop accepts as many components as it is told, separated by dots, and nothing else. -/
theorem parseIpv4Components_ok_iff {n : Nat} {s bs : Bytes} :
    parseIpv4Components (n + 1) s = .ok bs ↔ Dotted s bs ∧ bs.length = n + 1 := by
  induction n generalizing s bs with
  | zero =>
    rw [parseIpv4Components_succ_ok_iff, dotted_iff]
    constructor
    · intro h
      obtain ⟨b, hspells, ⟨-, hdrop, rfl⟩ | ⟨dot, rest, others, hno, -⟩⟩ := h
      · exact ⟨⟨b, hspells, .inl ⟨hdrop, rfl⟩⟩, rfl⟩
      · exact absurd rfl hno
    · intro h
      obtain ⟨⟨b, hspells, ⟨hdrop, rfl⟩ | ⟨dot, rest, others, -, hothers, rfl⟩⟩, hlen⟩ := h
      · exact ⟨b, hspells, .inl ⟨rfl, hdrop, rfl⟩⟩
      · cases hothers <;> simp at hlen
  | succ n ih =>
    rw [parseIpv4Components_succ_ok_iff, dotted_iff]
    constructor
    · intro h
      obtain ⟨b, hspells, ⟨hno, -⟩ | ⟨dot, rest, others, -, hdrop, hparse, rfl⟩⟩ := h
      · cases hno
      · obtain ⟨hothers, hlen⟩ := ih.mp hparse
        exact ⟨⟨b, hspells, .inr ⟨dot, rest, others, hdrop, hothers, rfl⟩⟩, by simp [hlen]⟩
    · intro h
      obtain ⟨⟨b, hspells, ⟨-, rfl⟩ | ⟨dot, rest, others, hdrop, hothers, rfl⟩⟩, hlen⟩ := h
      · simp at hlen
      · have hparse := ih.mpr ⟨hothers, by simpa using hlen⟩
        exact ⟨b, hspells, .inr ⟨dot, rest, others, by simp, hdrop, hparse, rfl⟩⟩

/-- An address is four components, and has their values in order. -/
theorem parseIpv4Address_ok_iff {t : Bytes} {a : Ipv4Address} :
    parseIpv4Address t = .ok a ↔ Dotted t a.toList := by
  have hlen : a.toList.length = 4 := a.length_toList
  have hcopy : copyN a.toList 0 4 = a := by
    simpa using copyN_append a []
  rw [parseIpv4Address, bind_eq_ok]
  constructor
  · intro h
    obtain ⟨bs, hparse, hbs⟩ := h
    obtain ⟨hdotted, hfour⟩ := parseIpv4Components_ok_iff.mp hparse
    have hlist : (copyN bs 0 4).toList = _ := toList_copyN (by omega)
    rw [← Except.ok.inj hbs, hlist, List.drop_zero, List.take_of_length_le (by omega)]
    exact hdotted
  · intro h
    exact ⟨a.toList, parseIpv4Components_ok_iff.mpr ⟨h, hlen⟩, by rw [hcopy]; rfl⟩

/-! ### Formatted addresses -/

theorem spells_toText (b : UInt8) : Spells (toText b.toNat) b where
  nonempty := Decimal.numeral_ne_nil _
  digits _ hd := Decimal.isDigit_of_mem_numeral hd
  value := Decimal.value_numeral _

theorem toList_ipv4Address (a : Ipv4Address) : a.toList =
    [byteAt a.toList 0, byteAt a.toList 1, byteAt a.toList 2, byteAt a.toList 3] := by
  apply List.ext_getElem
  · simp
  · intro i h₁ h₂
    have hi : i < 4 := by simpa using h₁
    interval_cases i <;> simp [byteAt]

/-- The text is four numerals, separated by three dots, that spell the bytes of the address. -/
def Ipv4Text (t : Bytes) (a : Ipv4Address) : Prop :=
  ∃ c₀ c₁ c₂ c₃, t = c₀ ++ text "." ++ c₁ ++ text "." ++ c₂ ++ text "." ++ c₃ ∧
    Spells c₀ (byteAt a.toList 0) ∧ Spells c₁ (byteAt a.toList 1) ∧
    Spells c₂ (byteAt a.toList 2) ∧ Spells c₃ (byteAt a.toList 3)

theorem dotted_four_iff {t : Bytes} {a : Ipv4Address} : Dotted t a.toList ↔ Ipv4Text t a := by
  have hdot : text "." = [46] := rfl
  rw [toList_ipv4Address, Ipv4Text, hdot]
  constructor
  · intro h
    cases h with | dot spells₀ more =>
    cases more with | dot spells₁ more =>
    cases more with | dot spells₂ more =>
    cases more with
    | last spells₃ => exact ⟨_, _, _, _, by simp, spells₀, spells₁, spells₂, spells₃⟩
    | dot spells₃ more => cases more
  · intro h
    obtain ⟨c₀, c₁, c₂, c₃, rfl, spells₀, spells₁, spells₂, spells₃⟩ := h
    have hdotted := Dotted.dot spells₀ (.dot spells₁ (.dot spells₂ (.last spells₃)))
    simpa using hdotted

theorem ipv4Text_formatIpv4Address (a : Ipv4Address) : Ipv4Text (formatIpv4Address a) a :=
  ⟨_, _, _, _, rfl, spells_toText _, spells_toText _, spells_toText _, spells_toText _⟩

/-! ### Reading by index -/

theorem findIdx?_dot (s : Bytes) :
    s.findIdx? (· = 46) = if s.dropWhile (· ≠ 46) = [] then none
      else some (s.takeWhile (· ≠ 46)).length := by
  induction s with
  | nil => rfl
  | cons b s ih =>
    by_cases hb : b = 46
    · subst hb
      rfl
    · have hdrop : (b :: s).dropWhile (· ≠ 46) = s.dropWhile (· ≠ 46) :=
        List.dropWhile_cons_of_pos (by simpa using hb)
      have htake : (b :: s).takeWhile (· ≠ 46) = b :: s.takeWhile (· ≠ 46) :=
        List.takeWhile_cons_of_pos (by simpa using hb)
      rw [List.findIdx?_cons, hdrop, htake, ih, if_neg (by simpa using hb)]
      split_ifs
      · rfl
      · rfl

/-- The next dot is behind the component. -/
theorem find_dot (s : Bytes) (first : Nat) :
    find s 46 first = if (s.drop first).dropWhile (· ≠ 46) = [] then none
      else some (first + ((s.drop first).takeWhile (· ≠ 46)).length) := by
  rw [find, findIdx?_dot]
  split_ifs
  · rfl
  · rfl

/-- The component from `first` on is within the text. -/
theorem readRange_component {s : Bytes} {first : Nat} (hfirst : first ≤ s.length) :
    let component := (s.drop first).takeWhile (· ≠ 46)
    (find s 46 first).getD s.length = first + component.length ∧
      readRange s first (first + component.length) = pure component := by
  intro component
  have hsplit : component ++ (s.drop first).dropWhile (· ≠ 46) = s.drop first :=
    List.takeWhile_append_dropWhile
  have hlen := congrArg List.length hsplit
  simp only [List.length_append, List.length_drop] at hlen
  constructor
  · rw [find_dot]
    split_ifs with hnil
    · rw [hnil, List.length_nil] at hlen
      rw [Option.getD_none]
      omega
    · rfl
  · have hrange : first ≤ first + component.length ∧ first + component.length ≤ s.length := by omega
    have htake : (s.drop first).take component.length = component := by
      rw [← hsplit, List.take_left]
    rw [readRange, if_pos hrange, Nat.add_sub_cancel_left, htake]

/-- The loop reads the text at its index, and nothing behind its end. -/
theorem parseIpv4ComponentsAt_eq (s : Bytes) (n first : Nat) (hfirst : first ≤ s.length) :
    parseIpv4ComponentsAt s n first = some (parseIpv4Components n (s.drop first)) := by
  induction n generalizing first with
  | zero => rfl
  | succ n ih =>
    obtain ⟨hend, hread⟩ := readRange_component hfirst
    have hsplit : (s.drop first).takeWhile (· ≠ 46) ++ (s.drop first).dropWhile (· ≠ 46) =
        s.drop first := List.takeWhile_append_dropWhile
    have hlast := find_dot s first
    rw [parseIpv4ComponentsAt, parseIpv4Components]
    generalize (s.drop first).takeWhile (· ≠ 46) = component at hend hread hsplit hlast ⊢
    by_cases hempty : component = []
    · have hat : (find s 46 first).getD s.length = first := by simp [hend, hempty]
      rw [if_pos hat, throwIf, if_pos hempty]
      rfl
    · have hlen := List.length_pos_of_ne_nil hempty
      have hat : ¬(find s 46 first).getD s.length = first := by omega
      rw [if_neg hat, throwIf, if_neg hempty, hend, hread]
      rw [pure_bind]
      cases fromChars 32 component with
      | none => rfl
      | some r =>
        obtain ⟨value, unread⟩ := r
        cases unread with
        | cons c unread => rfl
        | nil =>
          by_cases hvalue : value > 255
          · simp only [throwIf, if_pos hvalue]
            rfl
          simp only [throwIf, if_neg hvalue]
          generalize (s.drop first).dropWhile (· ≠ 46) = behind at hsplit hlast ⊢
          cases behind with
          | nil =>
            rw [if_pos rfl] at hlast
            rw [hlast]
            cases n with
            | zero => rfl
            | succ n => rfl
          | cons dot rest =>
            rw [if_neg (List.cons_ne_nil _ _)] at hlast
            rw [hlast]
            cases n with
            | zero => rfl
            | succ n =>
              have hbehind : s.drop (first + component.length + 1) = rest := by
                rw [Nat.add_assoc, ← List.drop_drop, ← hsplit, ← List.drop_drop, List.drop_left]
                rfl
              have hbound := congrArg List.length hsplit
              simp only [List.length_append, List.length_cons, List.length_drop] at hbound
              have hmore := ih (first + component.length + 1) (by omega)
              rw [hbehind] at hmore
              simp only [hmore]
              cases parseIpv4Components (n + 1) rest with
              | error e => rfl
              | ok others => rfl

theorem parseIpv4AddressAt_eq (s : Bytes) : parseIpv4AddressAt s = some (parseIpv4Address s) := by
  have hloop := parseIpv4ComponentsAt_eq s 4 0 (Nat.zero_le _)
  rw [List.drop_zero] at hloop
  simp only [parseIpv4AddressAt, parseIpv4Address, hloop]
  cases parseIpv4Components 4 s with
  | error e => rfl
  | ok components => rfl

/-! ### Rejected texts -/

theorem parseIpv4Components_error {n : Nat} {s : Bytes} {e : Exception}
    (h : parseIpv4Components n s = .error e) : ∃ what, e = .invalidArgument what := by
  induction n generalizing s with
  | zero => cases h
  | succ n ih =>
    -- every branch that throws names an invalid argument
    have invalid {what : Bytes} (herr : (throw (.invalidArgument what) : Except Exception Bytes) =
        .error e) : ∃ what, e = .invalidArgument what := ⟨what, (Except.error.inj herr).symm⟩
    rw [parseIpv4Components, throwIf_bind_error] at h
    obtain ⟨-, rfl⟩ | ⟨-, h⟩ := h
    · exact ⟨_, rfl⟩
    generalize fromChars 32 (s.takeWhile (· ≠ 46)) = r at h
    generalize s.dropWhile (· ≠ 46) = behind at h
    match r with
    | none => exact invalid h
    | some (_, _ :: _) => exact invalid h
    | some (value, []) =>
      rw [throwIf_bind_error] at h
      obtain ⟨-, rfl⟩ | ⟨-, h⟩ := h
      · exact ⟨_, rfl⟩
      match n, behind with
      | 0, [] => cases h
      | 0, _ :: _ => exact invalid h
      | _ + 1, [] => exact invalid h
      | n + 1, dot :: rest =>
        cases hmore : parseIpv4Components (n + 1) rest with
        | error e' =>
          simp only [hmore] at h
          obtain rfl := Except.error.inj h
          exact ih hmore
        | ok others =>
          simp only [hmore] at h
          cases h

/-- The parser accepts four numerals up to 255 with dots between them, with their values, and no other
text. It reads nothing behind the end of the text, and reads back every formatted address. -/
theorem ipv4_text_exact (t : Bytes) :
    parseIpv4AddressAt t = some (parseIpv4Address t) ∧
    (∀ a, parseIpv4Address t = .ok a ↔ Ipv4Text t a) ∧
    ((∀ a, ¬Ipv4Text t a) → ∃ what, parseIpv4Address t = .error (.invalidArgument what)) ∧
    ∀ a, parseIpv4Address (formatIpv4Address a) = .ok a := by
  have haccepts {t : Bytes} {a : Ipv4Address} : parseIpv4Address t = .ok a ↔ Ipv4Text t a := by
    rw [parseIpv4Address_ok_iff, dotted_four_iff]
  refine ⟨parseIpv4AddressAt_eq t, fun a => haccepts, ?_, ?_⟩
  · intro hno
    cases hparse : parseIpv4Components 4 t with
    | error e =>
      obtain ⟨what, rfl⟩ := parseIpv4Components_error hparse
      exact ⟨what, by rw [parseIpv4Address, hparse]; rfl⟩
    | ok components =>
      have hok : parseIpv4Address t = .ok (copyN components 0 4) := by
        rw [parseIpv4Address, hparse]
        rfl
      exact absurd (haccepts.mp hok) (hno _)
  · intro a
    exact haccepts.mpr (ipv4Text_formatIpv4Address a)

end PersonalVpn.Core
