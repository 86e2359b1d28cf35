import Mathlib.Data.String.Basic
import GitCensus.Selection.Rule
/-!
# The last rule decides

A selection is folded from the first rule on, starting from a value that the first rule
decides.  What comes out for a name is up to the last rule that covers it.
-/

namespace GitCensus.Selection

variable {α : Type} {rules before after : List Rule} {r : Rule} {name : String}
  {selected : Bool} {references : List (String × α)}

/-- The last rule that covers a name includes it; or none covers it, and there is no rule
or the first one excludes. -/
def Accepts (rules : List Rule) (name : String) : Prop :=
  (∃ before r after, rules = before ++ r :: after ∧ r.covers name ∧ r.includes ∧
    ∀ later ∈ after, ¬ later.covers name) ∨
  (∀ r ∈ rules, ¬ r.covers name) ∧ (rules = [] ∨ ∃ r rest, rules = r :: rest ∧ ¬ r.includes)

def codePoints (s : String) : List Nat := s.toList.map Char.toNat

namespace Rule

theorem apply_of_covers (h : r.covers name) : r.apply name selected = r.includes := by
  cases hincludes : r.includes <;> simp [apply, hincludes, h]

theorem apply_of_not_covers (h : ¬ r.covers name) : r.apply name selected = selected := by
  cases hincludes : r.includes <;> simp [apply, hincludes, h]

end Rule

theorem foldl_apply_of_not_covers (h : ∀ r ∈ rules, ¬ r.covers name) :
    rules.foldl (Rule.apply name) selected = selected := by
  induction rules generalizing selected with
  | nil => rfl
  | cons r rest ih =>
      rw [List.foldl_cons, Rule.apply_of_not_covers (h r (by simp))]
      exact ih fun later hlater => h later (by simp [hlater])

theorem selects_of_last (hcovers : r.covers name) (hafter : ∀ later ∈ after, ¬ later.covers name) :
    selects (before ++ r :: after) name = r.includes := by
  rw [selects, List.foldl_append, List.foldl_cons, Rule.apply_of_covers hcovers,
    foldl_apply_of_not_covers hafter]

theorem exists_last_or_not_covers (rules : List Rule) (name : String) :
    (∃ before r after, rules = before ++ r :: after ∧ r.covers name ∧
      ∀ later ∈ after, ¬ later.covers name) ∨ ∀ r ∈ rules, ¬ r.covers name := by
  induction rules with
  | nil => exact .inr (by simp)
  | cons r rest ih =>
      rcases ih with ⟨before, last, after, rfl, hcovers, hafter⟩ | hnone
      · exact .inl ⟨r :: before, last, after, rfl, hcovers, hafter⟩
      · by_cases hcovers : r.covers name
        · exact .inl ⟨[], r, rest, rfl, hcovers, hnone⟩
        · exact .inr (List.forall_mem_cons.mpr ⟨hcovers, hnone⟩)

theorem selectedAtFirst_iff :
    selectedAtFirst rules ↔ rules = [] ∨ ∃ r rest, rules = r :: rest ∧ ¬ r.includes := by
  cases rules <;> simp [selectedAtFirst]

theorem selects_iff_accepts : selects rules name ↔ Accepts rules name := by
  rcases exists_last_or_not_covers rules name with
    ⟨before, r, after, hrules, hcovers, hafter⟩ | hnone
  · rw [hrules, selects_of_last hcovers hafter, Accepts]
    constructor
    · intro hincludes
      exact .inl ⟨before, r, after, rfl, hcovers, hincludes, hafter⟩
    · rintro (⟨before', r', after', hsame, hcovers', hincludes', hafter'⟩ | ⟨hnone, -⟩)
      · have h : selects (before ++ r :: after) name = r.includes :=
          selects_of_last hcovers hafter
        rw [hsame, selects_of_last hcovers' hafter', hincludes'] at h
        exact h.symm
      · exact absurd hcovers (hnone r (by simp))
  · rw [selects, foldl_apply_of_not_covers hnone, selectedAtFirst_iff, Accepts]
    constructor
    · exact fun hfirst => .inr ⟨hnone, hfirst⟩
    · rintro (⟨before, r, after, rfl, hcovers, -⟩ | ⟨-, hfirst⟩)
      · exact absurd hcovers (hnone r (by simp))
      · exact hfirst

/-! ## The references in order -/

theorem map_toNat_lt_iff {cs ds : List Char} :
    cs.map Char.toNat < ds.map Char.toNat ↔ cs < ds := by
  induction cs generalizing ds with
  | nil => cases ds <;> simp
  | cons c cs ih =>
      cases ds with
      | nil => simp
      | cons d ds =>
          have hhead : c.toNat < d.toNat ↔ c < d := gt_iff_lt
          rw [List.map_cons, List.map_cons, List.cons_lt_cons_iff, List.cons_lt_cons_iff, ih,
            hhead, Char.toNat_inj]

theorem codePoints_lt_iff {a b : String} : codePoints a < codePoints b ↔ a < b := by
  rw [codePoints, codePoints, map_toNat_lt_iff, String.lt_iff_toList_lt]

theorem select_perm (rules : List Rule) (references : List (String × α)) :
    (select rules references).Perm (references.filter fun e => selects rules e.1) :=
  List.mergeSort_perm _ _

theorem pairwise_le_select (rules : List Rule) (references : List (String × α)) :
    (select rules references).Pairwise fun a b => a.1 ≤ b.1 := by
  have htrans (a b c : String × α) (hab : decide (a.1 ≤ b.1) = true)
      (hbc : decide (b.1 ≤ c.1) = true) : decide (a.1 ≤ c.1) = true :=
    decide_eq_true (le_trans (of_decide_eq_true hab) (of_decide_eq_true hbc))
  have htotal (a b : String × α) : (decide (a.1 ≤ b.1) || decide (b.1 ≤ a.1)) = true := by
    simpa using le_total a.1 b.1
  have hsorted := List.pairwise_mergeSort htrans htotal
    (references.filter fun e => selects rules e.1)
  exact hsorted.imp of_decide_eq_true

theorem pairwise_lt_select (hnames : (references.map Prod.fst).Nodup) :
    (select rules references).Pairwise fun a b => a.1 < b.1 := by
  have hkept : ((references.filter fun e => selects rules e.1).map Prod.fst).Nodup :=
    hnames.sublist (List.filter_sublist.map Prod.fst)
  have hdistinct := List.pairwise_map.mp
    (((select_perm rules references).map _).nodup_iff.mpr hkept)
  exact ((pairwise_le_select rules references).and hdistinct).imp fun h => lt_of_le_of_ne h.1 h.2

/-- Of references with distinct names, those that the rules accept are listed in the order
of the code points of their names, each with its value. -/
theorem select_lists_accepted (rules : List Rule) (hnames : (references.map Prod.fst).Nodup) :
    (select rules references).Pairwise (fun a b => codePoints a.1 < codePoints b.1) ∧
    ∀ name value, (name, value) ∈ select rules references ↔
      (name, value) ∈ references ∧ Accepts rules name := by
  refine ⟨?_, fun name value => ?_⟩
  · exact (pairwise_lt_select hnames).imp codePoints_lt_iff.mpr
  · rw [(select_perm rules references).mem_iff, List.mem_filter, selects_iff_accepts]

/-- Tags without one of them: the exclusion comes last and overrides the inclusion. -/
theorem select_lists_accepted_tags :
    (([("refs/tags/v1", 1), ("refs/heads/main", 2), ("refs/tags/a", 3)] :
      List (String × Nat)).map Prod.fst).Nodup ∧
    ("refs/tags/v1", 1) ∈ select
      [.ofFilter true Group.tags.filter, .ofFilter false (.below "refs/tags/a")]
      [("refs/tags/v1", 1), ("refs/heads/main", 2), ("refs/tags/a", 3)] := by
  have hnames : (([("refs/tags/v1", 1), ("refs/heads/main", 2), ("refs/tags/a", 3)] :
      List (String × Nat)).map Prod.fst).Nodup := by decide
  refine ⟨hnames, ((select_lists_accepted _ hnames).2 _ _).mpr ⟨by simp, ?_⟩⟩
  exact .inl ⟨[], _, _, rfl, by decide, by decide, by decide⟩

end GitCensus.Selection
