import GitCensus.Proofs.Census.Call
import GitCensus.Proofs.Census.Outcome
import GitCensus.Proofs.Store.Spending
/-!
# The same requests and records

The work stack asks the store for the same things in the same order as the recursive
visit, makes the same records in the same order and ends alike.  Both end where the
map has no cycle below the tree, and everywhere if the number of requests is limited.
-/

namespace GitCensus.Census

variable {σ : Type} {S : Store σ} {m : ObjectMap} {I J K : σ → Prop} {left : σ → Nat}
variable {c c' : Census σ} {id : ObjectId} {end' : Option Fault}

/-! ## Visits on a budget -/

theorem Run.left_le (hkeeps : S.Keeps K) (hspends : S.Spends K left) (h : Run S I end' c c')
    (hK : K c.store) : left c'.store ≤ left c.store := by
  induction h with
  | refl => exact Nat.le_refl _
  | move hrun hmove ih =>
      refine Nat.le_trans ?_ (ih hK)
      have hK' := hrun.keeps hkeeps hK
      cases hmove with
      | stack => exact Nat.le_refl _
      | blob => exact hspends.header _ hK'
      | tree => exact hspends.tree _ hK'
      | record => exact Nat.le_refl _
  | stop hrun hstop _ _ ih =>
      refine Nat.le_trans ?_ (ih hK)
      have hK' := hrun.keeps hkeeps hK
      cases hstop with
      | header => exact hspends.header _ hK'
      | wrongKind => exact hspends.header _ hK'
      | tree => exact hspends.tree _ hK'
      | malformed => exact Nat.le_refl _

theorem left_lt_of_survey (hkeeps : S.Keeps K) (hspends : S.Spends K left) (hK : K c.store)
    {entries : List Entry} (h : c.survey S id = (.ok entries, c')) :
    left c'.store < left c.store := by
  unfold survey at h
  rcases hask : c.askTree S id with ⟨fault | data, c₁⟩
  · simp [hask] at h
  · obtain ⟨hread, hc₁⟩ := askTree_spec hask
    have hasked : left c₁.store < left c.store := by
      rw [hc₁]
      exact hspends.payload hK hread
    have hK₁ : K c₁.store := by
      rw [hc₁]
      exact hkeeps.tree id hK
    simp only [hask] at h
    rcases hblobs : c₁.resolveBlobs S (Tree.decode data).entries with ⟨fault | ⟨⟩, c₂⟩
    · simp [hblobs] at h
    · have hrun : Run S (fun _ => True) none c₁ c₂ := resolveBlobs_run hblobs
      have hresolved := hrun.left_le hkeeps hspends hK₁
      simp only [hblobs] at h
      obtain rfl : c₂ = c' := by
        cases hfault : (Tree.decode data).fault <;> simp_all
      omega

theorem visitAll_ne_none_of_left (hS : S.Serves m I J) (hkeeps : S.Keeps K)
    (hspends : S.Spends K left) {depth : Nat}
    (hvisit : ∀ {id c}, Fit m I c → K c.store → left c.store < depth →
      visit S depth id c ≠ none)
    {ids : List ObjectId} (hfit : Fit m I c) (hK : K c.store)
    (hleft : left c.store < depth) : visitAll (visit S depth) ids c ≠ none := by
  induction ids generalizing c with
  | nil => simp [visitAll]
  | cons id rest ih =>
      rw [visitAll_cons]
      rcases hresult : visit S depth id c with _ | ⟨fault | ⟨⟩, c₁⟩
      · exact absurd hresult (hvisit hfit hK hleft)
      · simp
      · have hrun := (visit_visited hS hfit hresult).run
        have hle := hrun.left_le hkeeps hspends hK
        exact ih (hrun.fit hS hfit) (hrun.keeps hkeeps hK) (by omega)

/-- Visits cannot nest deeper than the budget allows payloads. -/
theorem visit_ne_none_of_left (hS : S.Serves m I J) (hkeeps : S.Keeps K)
    (hspends : S.Spends K left) {depth : Nat} (hfit : Fit m I c) (hK : K c.store)
    (hleft : left c.store < depth) : visit S depth id c ≠ none := by
  induction depth generalizing id c with
  | zero => exact absurd hleft (Nat.not_lt_zero _)
  | succ depth ih =>
      intro hnone
      have hend := visitEnd hS hfit depth id
      rw [hnone] at hend
      cases hend with
      | tooDeep hnew hsurvey hmissing hbelow =>
          have hrun : Run S I none c _ := survey_run hnew hsurvey
          have hlt := left_lt_of_survey hkeeps hspends hK hsurvey
          refine visitAll_ne_none_of_left hS hkeeps hspends ih (hrun.fit hS hfit)
            (hrun.keeps hkeeps hK) ?_ hbelow
          omega

/-! ## Stack and recursion -/

/-- In each state that calls can lead to, sizing a tree of a map and visiting it by
recursion issue the same requests, make the same records in the same order and end with
the same answer.  The map may refuse all requests after a number of them; the outer
meter keeps the list of all requests, refused ones included. -/
theorem treeSize_eq_visitSize {limit : Option Nat}
    {c : Census (Metered (Metered ObjectMap))}
    (hc : Reachable (Metered.store (Metered.store ObjectMap.store))
      { inner := { inner := m, remaining := limit } } c)
    {t : ObjectId} (hends : limit = none → m.AcyclicFrom t) :
    ∃ answer c₁ c₂,
      (∃ rounds, c.treeSize (Metered.store (Metered.store ObjectMap.store)) rounds t =
        some (answer, c₁)) ∧
      (∃ depth, c.visitSize (Metered.store (Metered.store ObjectMap.store)) depth t =
        some (answer, c₂)) ∧
      c₁.store.requests = c₂.store.requests ∧ c₁.blobs = c₂.blobs ∧ c₁.trees = c₂.trees := by
  have hS := Metered.store_serves (Metered.store_serves m.store_serves)
  have hfit := hc.fit hS rfl
  have hvisit : ∃ depth, visit (Metered.store (Metered.store ObjectMap.store)) depth t c ≠
      none := by
    cases limit with
    | none =>
        obtain ⟨levels, found, hprobe⟩ := ObjectMap.exists_probe_of_acyclicFrom (hends rfl)
        exact ⟨levels, visit_ne_none_of_probe hS hfit hprobe⟩
    | some k =>
        have hspends := Metered.store_spends_inner (Metered.store_spends ObjectMap.store)
        have hkeeps := Metered.keeps_inner (Metered.keeps_limited ObjectMap.store)
        have hK := hc.keeps hkeeps rfl
        exact ⟨_, visit_ne_none_of_left hS hkeeps hspends hfit hK (Nat.lt_succ_self _)⟩
  obtain ⟨depth, hdepth⟩ := hvisit
  obtain ⟨answer, c₂, hrecursion⟩ := exists_visitSize_of_visit hdepth
  obtain ⟨rounds, notes, hstack⟩ :=
    treeSize_of_visitSize hS hfit hc.pending hrecursion
  exact ⟨answer, c₂.withStack [] notes, c₂, ⟨rounds, hstack⟩, ⟨depth, hrecursion⟩, rfl, rfl, rfl⟩

open ObjectMap (shared sharedSize)
open ObjectId (repeating)

/-- A census of the shared map, with a limit on its requests. -/
def sharedCensus (limit : Option Nat) : Census (Metered (Metered ObjectMap)) :=
  { store := { inner := { inner := shared, remaining := limit } } }

/-- With the second tree recorded, the recursion reads the first and the third tree twice and
asks for the blob of the third alone; it does as the stack does, whose requests are counted here.
With a limit of four requests it is refused the payload of the second tree, and the two blobs
that it has recorded by then stay. -/
theorem treeSize_eq_visitSize_shared :
    (∃ first c c₂ depth, perform (Metered.store (Metered.store ObjectMap.store)) 2
        (.tree (repeating 2)) (sharedCensus none) = some (first, c) ∧
      c.visitSize (Metered.store (Metered.store ObjectMap.store)) depth (repeating 1) =
        some (.ok sharedSize, c₂) ∧
      c₂.store.requests.reverse = [.tree (repeating 2), .header (repeating 9), .tree (repeating 1),
        .tree (repeating 3), .header (repeating 8), .tree (repeating 1)] ∧
      c₂.blobs.toList.map Prod.fst = [repeating 9, repeating 8] ∧
      c₂.trees.toList.map Prod.fst = [repeating 2, repeating 3, repeating 1]) ∧
    ∃ c₂ depth, visitSize (Metered.store (Metered.store ObjectMap.store)) depth (repeating 1)
        (sharedCensus (some 4)) = some (.error (.channel .limitReached), c₂) ∧
      c₂.store.requests.reverse = [.tree (repeating 1), .header (repeating 9),
        .tree (repeating 3), .header (repeating 8), .tree (repeating 2)] ∧
      c₂.blobs.toList.map Prod.fst = [repeating 9, repeating 8] ∧ c₂.trees.toList = [] := by
  constructor
  · have hcalls : ((perform (Metered.store (Metered.store ObjectMap.store)) 2 (.tree (repeating 2))
        (sharedCensus none)).bind fun a =>
          (a.2.treeSize (Metered.store (Metered.store ObjectMap.store)) 9 (repeating 1)).map fun b =>
            (b.1.toOption, b.2.store.requests.reverse, b.2.blobs.toList.map Prod.fst,
              b.2.trees.toList.map Prod.fst)) =
        some (some sharedSize, [.tree (repeating 2), .header (repeating 9), .tree (repeating 1),
          .tree (repeating 3), .header (repeating 8), .tree (repeating 1)],
          [repeating 9, repeating 8], [repeating 2, repeating 3, repeating 1]) := by
      decide +kernel
    obtain ⟨⟨first, c⟩, hfirst, hcalls⟩ := Option.bind_eq_some_iff.mp hcalls
    obtain ⟨⟨answer, c'⟩, hstack, hfacts⟩ := Option.map_eq_some_iff.mp hcalls
    obtain ⟨hanswer, hrequests, hblobs, htrees⟩ := by simpa only [Prod.mk.injEq] using hfacts
    have hacyclic : shared.AcyclicFrom (repeating 1) := ObjectMap.measurable_shared.acyclic
    obtain ⟨answer', c₁, c₂, ⟨rounds, hstack'⟩, ⟨depth, hvisit⟩, hsame, hsameBlobs, hsameTrees⟩ :=
      treeSize_eq_visitSize (.call .start hfirst) fun _ => hacyclic
    obtain ⟨rfl, rfl⟩ := Prod.mk.inj (treeSize_unique hstack hstack')
    cases answer with
    | error fault => cases hanswer
    | ok size =>
        obtain rfl := Option.some.inj hanswer
        exact ⟨first, c, c₂, depth, hfirst, hvisit, hsame ▸ hrequests, hsameBlobs ▸ hblobs,
          hsameTrees ▸ htrees⟩
  · have hcall : (treeSize (Metered.store (Metered.store ObjectMap.store)) 9 (repeating 1)
        (sharedCensus (some 4))).map (fun a => (faultOf a.1, a.2.store.requests.reverse,
          a.2.blobs.toList.map Prod.fst, a.2.trees.toList)) =
        some (some (.channel .limitReached), [.tree (repeating 1), .header (repeating 9),
          .tree (repeating 3), .header (repeating 8), .tree (repeating 2)],
          [repeating 9, repeating 8], []) := by
      decide +kernel
    obtain ⟨⟨answer, c'⟩, hstack, hfacts⟩ := Option.map_eq_some_iff.mp hcall
    obtain ⟨hanswer, hrequests, hblobs, htrees⟩ := by simpa only [Prod.mk.injEq] using hfacts
    have hstart : Reachable (Metered.store (Metered.store ObjectMap.store))
        { inner := { inner := shared, remaining := some 4 } } (sharedCensus (some 4)) := .start
    obtain ⟨answer', c₁, c₂, ⟨rounds, hstack'⟩, ⟨depth, hvisit⟩, hsame, hsameBlobs, hsameTrees⟩ :=
      treeSize_eq_visitSize hstart nofun
    obtain ⟨rfl, rfl⟩ := Prod.mk.inj (treeSize_unique hstack hstack')
    cases answer with
    | ok size => cases hanswer
    | error fault =>
        obtain rfl := Option.some.inj hanswer
        exact ⟨c₂, depth, hvisit, hsame ▸ hrequests, hsameBlobs ▸ hblobs, hsameTrees ▸ htrees⟩

end GitCensus.Census
