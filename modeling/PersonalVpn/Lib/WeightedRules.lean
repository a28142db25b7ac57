import Mathlib.Data.Finset.Max
import Mathlib.Data.Finset.Insert

/-! Lists of rules that permit or refuse a request, of which the heaviest that applies decides. -/

/-- How rules `R` judge requests `P`. -/
structure WeightedRules (R P W : Type) where
  applies : R → P → Prop
  weight : R → W
  permits : R → Prop

namespace WeightedRules

variable {R P W : Type} [LinearOrder W] (book : WeightedRules R P W) {rules : List R} {p : P}

/-- No rule that applies is heavier. Rules of one weight decide together. -/
def Decides (rules : List R) (p : P) (r : R) : Prop :=
  book.applies r p ∧ ∀ r' ∈ rules, book.applies r' p → book.weight r' ≤ book.weight r

/-- No rule that decides refuses. A request that no rule applies to is admitted. -/
def Admits (rules : List R) (p : P) : Prop := ∀ r ∈ rules, book.Decides rules p r → book.permits r

instance [∀ r, Decidable (book.applies r p)] (r : R) : Decidable (book.Decides rules p r) :=
  inferInstanceAs (Decidable (_ ∧ _))

instance [∀ r, Decidable (book.applies r p)] [DecidablePred book.permits] :
    Decidable (book.Admits rules p) :=
  inferInstanceAs (Decidable (∀ r ∈ rules, book.Decides rules p r → book.permits r))

/-- The order of the rules does not matter, nor how often one occurs. -/
theorem admits_congr {rules' : List R} (h : ∀ r, r ∈ rules ↔ r ∈ rules') :
    book.Admits rules p ↔ book.Admits rules' p := by
  simp only [Admits, Decides, h]

/-- Rules that all permit admit everything. -/
theorem admits_of_permits (h : ∀ r ∈ rules, book.permits r) : book.Admits rules p :=
  fun r hr _ => h r hr

/-- Every rule that permits is heavier than every rule that refuses. -/
def PermitsFirst (rules : List R) : Prop :=
  ∀ r ∈ rules, book.permits r → ∀ r' ∈ rules, ¬book.permits r' → book.weight r' < book.weight r

theorem exists_decides {r : R} (hr : r ∈ rules) (happlies : book.applies r p) :
    ∃ d ∈ rules, book.Decides rules p d := by
  classical
  let candidates := rules.toFinset.filter fun r => book.applies r p
  have hmem (r : R) : r ∈ candidates ↔ r ∈ rules ∧ book.applies r p := by simp [candidates]
  obtain ⟨d, hd, hmax⟩ := candidates.exists_max_image book.weight ⟨r, (hmem r).mpr ⟨hr, happlies⟩⟩
  obtain ⟨hin, hd⟩ := (hmem d).mp hd
  exact ⟨d, hin, hd, fun r' hr' h => hmax r' ((hmem r').mpr ⟨hr', h⟩)⟩

/-- A request that some rule applies to is admitted where one that applies permits it. -/
theorem admits_iff (horder : book.PermitsFirst rules) {b : R} (hb : b ∈ rules)
    (happlies : book.applies b p) :
    book.Admits rules p ↔ ∃ r ∈ rules, book.applies r p ∧ book.permits r := by
  constructor
  · intro h
    obtain ⟨d, hin, hd⟩ := book.exists_decides hb happlies
    exact ⟨d, hin, hd.1, h d hin hd⟩
  · rintro ⟨r, hr, happlies, hpermits⟩ d hin hd
    by_contra hrefuses
    exact absurd (hd.2 r hr happlies) (not_le.mpr (horder r hr hpermits d hin hrefuses))

end WeightedRules
