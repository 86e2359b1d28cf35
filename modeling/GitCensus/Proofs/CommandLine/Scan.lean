import GitCensus.Proofs.CommandLine.Together
import GitCensus.Proofs.Report.Maxima
import GitCensus.Proofs.Selection.LastRule
/-!
# What a scan reports

The references of a scan share one census, and the largest values are gathered as it goes.
They are those of the trees among the references, each sized alone, and the scan fails with
the first reference that alone has no size.
-/

namespace GitCensus.CommandLine

open Census (Consistent)
open ObjectId (repeating)
open Report (Maxima Maximum With)
open Repository (Access)

variable {σ : Type} {S : Source σ} {T : Store σ} {I : σ → Prop} {s₀ : σ} {id : ObjectId}
  {rounds : Nat} {s s' : Session σ} {c c' : Census σ} {ts : List (String × ObjectId)}
  {maxima ms : Maxima} {answer answer' : Except Fault ObjectSize}
  {result : Except Fault Maxima} {fault : Fault} {held : String → TreeSize → Prop}

theorem AnsweredAlone.unique (h : AnsweredAlone T s₀ id answer)
    (h' : AnsweredAlone T s₀ id answer') : answer = answer' := by
  obtain ⟨rounds, c, hsize⟩ := h
  obtain ⟨rounds', c', hsize'⟩ := h'
  have hcall : ({ store := s₀ } : Census σ).perform T rounds (.object id) = some (answer, c) := hsize
  exact congrArg Prod.fst (Census.perform_unique hcall hsize')

/-- An answer that is given in a session is the one that is given alone. -/
theorem answeredAlone_of_objectSize (hT : T.Steady I) (hs₀ : I s₀) (hc : Consistent T s₀ I c)
    (hpending : c.pending.ids = []) (h : c.objectSize T rounds id = some (answer, c')) :
    AnsweredAlone T s₀ id answer :=
  Census.objectSize_alike hT hs₀ hc hpending (.fresh hs₀) rfl h

/-- An object of this name among the given ones is a tree, and sized alone it has this size. -/
def TreeAmong (T : Store σ) (s₀ : σ) (ts : List (String × ObjectId)) (name : String)
    (size : TreeSize) : Prop :=
  ∃ id, (name, id) ∈ ts ∧ AnsweredAlone T s₀ id (.ok (.tree size))

/-- The largest values after one more object has been sized. -/
def gain (name : String) (maxima : Maxima) : ObjectSize → Maxima
  | .blob _ => maxima
  | .tree size => maxima.add name size

/-- How gathering the largest values ends, by the answers that the objects have alone. -/
inductive Gathered (T : Store σ) (s₀ : σ) :
    List (String × ObjectId) → Maxima → Except Fault Maxima → Prop
  | done (maxima : Maxima) : Gathered T s₀ [] maxima (.ok maxima)
  | failed {name : String} {id : ObjectId} {ts : List (String × ObjectId)} {maxima : Maxima}
      {fault : Fault} (halone : AnsweredAlone T s₀ id (.error fault)) :
      Gathered T s₀ ((name, id) :: ts) maxima (.error fault)
  | sized {name : String} {id : ObjectId} {ts : List (String × ObjectId)} {maxima : Maxima}
      {size : ObjectSize} {result : Except Fault Maxima}
      (halone : AnsweredAlone T s₀ id (.ok size))
      (hrest : Gathered T s₀ ts (gain name maxima size) result) :
      Gathered T s₀ ((name, id) :: ts) maxima result

namespace Session

theorem scanAll_cons_of_error (name : String) (ts : List (String × ObjectId)) (maxima : Maxima)
    (h : s.census.objectSize S.store rounds id = some (.error fault, c)) :
    ∃ s', scanAll S rounds ((name, id) :: ts) maxima s = some (.error fault, s') := by
  rw [scanAll, measure_of_objectSize h]
  exact ⟨_, rfl⟩

theorem scanAll_cons_of_ok (s : Session σ) (c : Census σ) (name : String) (id : ObjectId)
    (ts : List (String × ObjectId)) (maxima : Maxima) :
    ∃ s₁ : Session σ, s₁.census = c ∧ ∀ {rounds size},
      s.census.objectSize S.store rounds id = some (.ok size, c) →
      scanAll S rounds ((name, id) :: ts) maxima s =
        scanAll S rounds ts (gain name maxima size) s₁ := by
  refine ⟨⟨c, s.lines ++ news S s.census c⟩, rfl, fun {rounds size} h => ?_⟩
  rw [scanAll, measure_of_objectSize h]
  cases size <;> rfl

/-- A session that ends has gathered what the objects come to alone. -/
theorem gathered_of_scanAll (hS : S.store.Steady I) (hs₀ : I s₀)
    (hc : Consistent S.store s₀ I s.census) (hpending : s.census.pending.ids = [])
    (h : scanAll S rounds ts maxima s = some (result, s')) :
    Gathered S.store s₀ ts maxima result := by
  induction ts generalizing s maxima with
  | nil =>
      obtain ⟨rfl, rfl⟩ := Prod.mk.inj (Option.some.inj h)
      exact .done maxima
  | cons t ts ih =>
      obtain ⟨name, id⟩ := t
      cases hsize : s.census.objectSize S.store rounds id with
      | none => simp [scanAll, measure, hsize] at h
      | some answered =>
          obtain ⟨answer, c⟩ := answered
          have halone := answeredAlone_of_objectSize hS hs₀ hc hpending hsize
          cases answer with
          | error fault =>
              obtain ⟨s'', hall⟩ := scanAll_cons_of_error name ts maxima hsize
              rw [hall] at h
              obtain ⟨rfl, -⟩ := Prod.mk.inj (Option.some.inj h)
              exact .failed halone
          | ok size =>
              obtain ⟨hc₁, hpending₁⟩ := consistent_of_sized hS hs₀ hc hpending hsize
              obtain ⟨s₁, rfl, hall⟩ := scanAll_cons_of_ok (S := S) s c name id ts maxima
              rw [hall hsize] at h
              exact .sized halone (ih hc₁ hpending₁ h)

/-- A session ends if each of its objects alone is answered. -/
theorem exists_scanAll (hS : S.store.Steady I) (hs₀ : I s₀)
    (halone : ∀ t ∈ ts, ∃ answer, AnsweredAlone S.store s₀ t.2 answer)
    (hc : Consistent S.store s₀ I s.census) (hpending : s.census.pending.ids = [])
    (maxima : Maxima) : ∃ rounds result s', scanAll S rounds ts maxima s = some (result, s') := by
  induction ts generalizing s maxima with
  | nil => exact ⟨0, .ok maxima, s, rfl⟩
  | cons t ts ih =>
      obtain ⟨name, id⟩ := t
      obtain ⟨⟨answer, _, _, hfresh⟩, halone⟩ := List.forall_mem_cons.mp halone
      obtain ⟨rounds₁, c₁, hsize⟩ :=
        Census.objectSize_alike hS hs₀ (.fresh hs₀) rfl hc hpending hfresh
      cases answer with
      | error fault =>
          obtain ⟨s', hall⟩ := scanAll_cons_of_error name ts maxima hsize
          exact ⟨rounds₁, .error fault, s', hall⟩
      | ok size =>
          obtain ⟨hc₁, hpending₁⟩ := consistent_of_sized hS hs₀ hc hpending hsize
          obtain ⟨s₁, rfl, hall⟩ := scanAll_cons_of_ok (S := S) s c₁ name id ts maxima
          obtain ⟨rounds₂, result, s', hrest⟩ := ih halone hc₁ hpending₁ (gain name maxima size)
          refine ⟨rounds₁ + rounds₂, result, s', ?_⟩
          rw [hall (Census.objectSize_mono hsize rounds₂), Nat.add_comm]
          exact scanAll_mono hrest rounds₁

end Session

/-! ## What has been gathered -/

theorem Gathered.first_fault (h : Gathered T s₀ ts maxima (.error fault)) :
    ∃ before t after, ts = before ++ t :: after ∧
      (∀ b ∈ before, ∃ size, AnsweredAlone T s₀ b.2 (.ok size)) ∧
      AnsweredAlone T s₀ t.2 (.error fault) := by
  generalize hresult : (Except.error fault : Except Fault Maxima) = result at h
  induction h with
  | done => cases hresult
  | @failed name id ts _ _ halone =>
      obtain rfl := Except.error.inj hresult
      exact ⟨[], (name, id), ts, rfl, by simp, halone⟩
  | @sized name id _ _ size _ halone _ ih =>
      obtain ⟨before, t, after, rfl, hbefore, hfault⟩ := ih hresult
      refine ⟨(name, id) :: before, t, after, rfl, ?_, hfault⟩
      exact List.forall_mem_cons.mpr ⟨⟨size, halone⟩, hbefore⟩

theorem Gathered.sized_alone (h : Gathered T s₀ ts maxima (.ok ms)) :
    ∀ t ∈ ts, ∃ size, AnsweredAlone T s₀ t.2 (.ok size) := by
  generalize hresult : (Except.ok ms : Except Fault Maxima) = result at h
  induction h with
  | done => simp
  | failed => cases hresult
  | sized halone _ ih => exact List.forall_mem_cons.mpr ⟨⟨_, halone⟩, ih hresult⟩

theorem treeAmong_cons_iff {name : String} {size : ObjectSize}
    (halone : AnsweredAlone T s₀ id (.ok size)) {name' : String} {size' : TreeSize} :
    TreeAmong T s₀ ((name, id) :: ts) name' size' ↔
      name' = name ∧ size = .tree size' ∨ TreeAmong T s₀ ts name' size' := by
  constructor
  · rintro ⟨id', hmem, htree⟩
    rcases List.mem_cons.mp hmem with heq | hmem
    · obtain ⟨rfl, rfl⟩ := Prod.mk.inj heq
      exact .inl ⟨rfl, Except.ok.inj (halone.unique htree)⟩
    · exact .inr ⟨id', hmem, htree⟩
  · rintro (⟨rfl, rfl⟩ | ⟨id', hmem, htree⟩)
    · exact ⟨id, List.mem_cons_self, halone⟩
    · exact ⟨id', List.mem_cons_of_mem _ hmem, htree⟩

/-- Objects with ascending names add their trees to those that the largest values are of. -/
theorem Gathered.maxima_of (h : Gathered T s₀ ts maxima (.ok ms)) (hof : maxima.Of held)
    (hsorted : ts.Pairwise fun a b => a.1 ≤ b.1)
    (hlater : ∀ t ∈ ts, ∀ name size, held name size → name ≤ t.1) :
    ms.Of fun name size => held name size ∨ TreeAmong T s₀ ts name size := by
  generalize hresult : (Except.ok ms : Except Fault Maxima) = result at h
  -- a tree that is passed joins those held already, so these vary in the induction
  induction h generalizing held with
  | done maxima =>
      obtain rfl := Except.ok.inj hresult
      exact hof.congr fun name size => by simp [TreeAmong]
  | failed => cases hresult
  | @sized name id ts maxima size _ halone _ ih =>
      obtain ⟨hlaterName, hlater⟩ := List.forall_mem_cons.mp hlater
      obtain ⟨hbelow, hsorted⟩ := List.pairwise_cons.mp hsorted
      cases size with
      | blob size =>
          refine (ih hof hsorted hlater hresult).congr fun name' size' => ?_
          rw [treeAmong_cons_iff halone]
          simp
      | tree size =>
          have hlater' : ∀ t ∈ ts, ∀ name' size', With held name size name' size' → name' ≤ t.1 := by
            rintro t ht name' size' (hheld | ⟨rfl, rfl⟩)
            · exact hlater t ht name' size' hheld
            · exact hbelow t ht
          refine (ih (hof.add hlaterName) hsorted hlater' hresult).congr fun name' size' => ?_
          rw [treeAmong_cons_iff halone, With, ObjectSize.tree.injEq, or_assoc,
            eq_comm (a := size')]

/-! ## Runs -/

variable {host : Host} {env : Environment} {args : List String} {i : Invocation} {r : Repository}
  {rules : List Selection.Rule} {format : Report.Format} {access : Access}

/-- The references that rules select, ascending by name, with the objects they lead to. -/
def scanned (r : Repository) (rules : List Selection.Rule) : List (String × ObjectId) :=
  (Selection.select rules (namedReferences r)).map fun (name, id) => (name, r.peel id)

theorem pairwise_le_scanned (r : Repository) (rules : List Selection.Rule) :
    (scanned r rules).Pairwise fun a b => a.1 ≤ b.1 :=
  List.pairwise_map.mpr (Selection.pairwise_le_select rules (namedReferences r))

/-- The selected references in order of their names, if no name comes twice. -/
theorem scanned_eq (hperm : (((namedReferences r).filter fun e => Selection.selects rules e.1).map
      fun (name, id) => (name, r.peel id)).Perm ts)
    (hsorted : ts.Pairwise fun a b => a.1 < b.1) : scanned r rules = ts := by
  have hall : (scanned r rules).Perm ts :=
    ((Selection.select_perm rules (namedReferences r)).map _).trans hperm
  refine hall.eq_of_pairwise ?_ (pairwise_le_scanned r rules) (hsorted.imp le_of_lt)
  have hnodup : (ts.map Prod.fst).Nodup := List.pairwise_map.mpr (hsorted.imp ne_of_lt)
  intro a b ha hb hle hge
  exact List.inj_on_of_nodup_map hnodup (hall.mem_iff.mp ha) hb (le_antisymm hle hge)

theorem mem_scanned_iff {name : String} : (name, id) ∈ scanned r rules ↔
    ∃ id', (name, id') ∈ namedReferences r ∧ Selection.selects rules name ∧ r.peel id' = id := by
  simp only [scanned, List.mem_map, Prod.mk.injEq, Prod.exists]
  constructor
  · rintro ⟨_, id', hmem, rfl, rfl⟩
    obtain ⟨hmem, hselects⟩ :=
      List.mem_filter.mp ((Selection.select_perm rules (namedReferences r)).mem_iff.mp hmem)
    exact ⟨id', hmem, hselects, rfl⟩
  · rintro ⟨id', hmem, hselects, rfl⟩
    refine ⟨name, id', ?_, rfl, rfl⟩
    exact (Selection.select_perm rules (namedReferences r)).mem_iff.mpr
      (List.mem_filter.mpr ⟨hmem, hselects⟩)

theorem runScan_of_open (rules : List Selection.Rule) (format : Report.Format)
    (hopen : openRepository host i = .ok r) (hstore : openStore host i r = .ok access) :
    ∃ line, ∀ rounds,
      runScan rounds host i rules format = (Session.scanAll source rounds (scanned r rules) []
        { census := { store := access }, lines := [line] }).map fun (maxima, s) =>
          match maxima with
          | .ok maxima => (.ok (Report.maxima format maxima), (s.say s.sizedLine).lines)
          | .error cause => (.error (.sizing cause), s.lines) := by
  simp only [runScan, hopen, hstore]
  exact ⟨_, fun _ => rfl⟩

/-- A scan that ends reports what has been gathered. -/
theorem gathered_of_runScan {answer : TaskResult} (hopen : openRepository host i = .ok r)
    (hstore : openStore host i r = .ok access)
    (h : runScan rounds host i rules format = some answer) :
    ∃ result, Gathered Access.store access (scanned r rules) [] result ∧
      answer.1 = (result.map (Report.maxima format)).mapError .sizing := by
  obtain ⟨I, hS, haccess⟩ := openStore_steady hstore
  obtain ⟨line, hscan⟩ := runScan_of_open rules format hopen hstore
  rw [hscan] at h
  obtain ⟨⟨result, s⟩, hall, rfl⟩ := Option.map_eq_some_iff.mp h
  refine ⟨result, Session.gathered_of_scanAll (S := source) hS haccess (.fresh haccess) rfl hall, ?_⟩
  cases result <;> rfl

theorem exists_runScan (format : Report.Format) (hopen : openRepository host i = .ok r)
    (hstore : openStore host i r = .ok access)
    (halone : ∀ t ∈ scanned r rules, ∃ answer, AnsweredAlone Access.store access t.2 answer) :
    ∃ rounds answer, runScan rounds host i rules format = some answer := by
  obtain ⟨I, hS, haccess⟩ := openStore_steady hstore
  obtain ⟨line, hscan⟩ := runScan_of_open rules format hopen hstore
  obtain ⟨rounds, result, s, hall⟩ := Session.exists_scanAll (S := source)
    (s := { census := { store := access }, lines := [line] }) hS haccess halone
    (.fresh haccess) rfl []
  have hrun := hscan rounds
  rw [hall] at hrun
  exact ⟨rounds, _, hrun⟩

theorem run_of_scan (hextra : host.hasExtra = true)
    (hread : Invocation.read env args = .ok { i with task := .scan rules format }) (rounds : Nat) :
    run rounds host env args = (runScan rounds host i rules format).map fun (result, lines) =>
      outcome i.verbose result lines := by
  simp only [run, hextra, hread, Bool.not_true, Bool.false_eq_true, if_false]
  rfl

theorem exists_run_of_scan (hextra : host.hasExtra = true) (hopen : openRepository host i = .ok r)
    (hstore : openStore host i r = .ok access)
    (hread : Invocation.read env args = .ok { i with task := .scan rules format })
    (halone : ∀ t ∈ scanned r rules, ∃ answer, AnsweredAlone Access.store access t.2 answer) :
    ∃ enough o, ∀ rounds, enough ≤ rounds → run rounds host env args = some o := by
  obtain ⟨enough, answer, hscan⟩ := exists_runScan format hopen hstore halone
  have hrun := run_of_scan hextra hread enough
  rw [hscan] at hrun
  exact ⟨enough, outcome i.verbose answer.1 answer.2, fun _ hle => run_of_le hrun hle⟩

theorem gathered_of_run {o : Outcome} (hextra : host.hasExtra = true)
    (hopen : openRepository host i = .ok r) (hstore : openStore host i r = .ok access)
    (hread : Invocation.read env args = .ok { i with task := .scan rules format })
    (h : run rounds host env args = some o) :
    ∃ result progress, Gathered Access.store access (scanned r rules) [] result ∧
      o = outcome i.verbose ((result.map (Report.maxima format)).mapError .sizing) progress := by
  rw [run_of_scan hextra hread] at h
  obtain ⟨answer, hscan, rfl⟩ := Option.map_eq_some_iff.mp h
  obtain ⟨result, hgathered, hanswer⟩ := gathered_of_runScan hopen hstore hscan
  exact ⟨result, answer.2, hgathered, by rw [← hanswer]⟩

/-- If all selected references have a size alone, a scan succeeds, and its report states for
each of the eight statistics the largest value among the trees that the references lead to and
the least name of a reference with that value; it is empty exactly without such a tree.  If some
have none, the scan fails with the first of them and has no output. -/
theorem scan_reports_maxima (hextra : host.hasExtra = true)
    (hopen : openRepository host i = .ok r) (hstore : openStore host i r = .ok access)
    (hread : Invocation.read env args = .ok { i with task := .scan rules format }) :
    ((∀ t ∈ scanned r rules, ∃ size, AnsweredAlone Access.store access t.2 (.ok size)) →
      ∃ enough o ms, (∀ rounds, enough ≤ rounds → run rounds host env args = some o) ∧
        o.exitCode = 0 ∧ Report.States format ms o.output ∧
        (o.output = Report.empty format ↔ ms = []) ∧
        (ms = [] ↔ ∀ name size, ¬ TreeAmong Access.store access (scanned r rules) name size) ∧
        (ms ≠ [] → List.Forall₂ (Maximum.Of (TreeAmong Access.store access (scanned r rules)))
          TreeSize.fields ms)) ∧
    ((∃ t ∈ scanned r rules, ∃ fault, AnsweredAlone Access.store access t.2 (.error fault)) →
      (∀ rounds o, run rounds host env args = some o → ∃ before t after fault,
        scanned r rules = before ++ t :: after ∧
        (∀ b ∈ before, ∃ size, AnsweredAlone Access.store access b.2 (.ok size)) ∧
        AnsweredAlone Access.store access t.2 (.error fault) ∧
        o.Reports i.verbose (.sizing fault)) ∧
      ((∀ t ∈ scanned r rules, ∃ answer, AnsweredAlone Access.store access t.2 answer) →
        ∃ enough o, ∀ rounds, enough ≤ rounds → run rounds host env args = some o)) := by
  constructor
  · intro hsized
    have halone (t) (ht : t ∈ scanned r rules) :
        ∃ answer, AnsweredAlone Access.store access t.2 answer := by
      obtain ⟨size, hsize⟩ := hsized t ht
      exact ⟨.ok size, hsize⟩
    obtain ⟨enough, o, hrun⟩ := exists_run_of_scan hextra hopen hstore hread halone
    obtain ⟨result, progress, hgathered, rfl⟩ :=
      gathered_of_run hextra hopen hstore hread (hrun enough (Nat.le_refl enough))
    cases result with
    | error fault =>
        obtain ⟨before, t, after, hsplit, -, hfault⟩ := hgathered.first_fault
        obtain ⟨size, hsize⟩ := hsized t (by simp [hsplit])
        cases hfault.unique hsize
    | ok ms =>
        have hof : ms.Of (TreeAmong Access.store access (scanned r rules)) :=
          (hgathered.maxima_of .none (pairwise_le_scanned r rules) (by simp)).congr (by simp)
        have hstates := Report.states_maxima format ms
        exact ⟨enough, _, ms, hrun, rfl, hstates, hstates.eq_empty_iff, hof.empty_iff, hof.maxima⟩
  · rintro ⟨t, ht, fault, hfault⟩
    refine ⟨fun rounds o hrun => ?_, exists_run_of_scan hextra hopen hstore hread⟩
    obtain ⟨result, progress, hgathered, rfl⟩ := gathered_of_run hextra hopen hstore hread hrun
    cases result with
    | error fault =>
        obtain ⟨before, t, after, hsplit, hbefore, hfault⟩ := hgathered.first_fault
        exact ⟨before, t, after, fault, hsplit, hbefore, hfault, reports_outcome _ _ _⟩
    | ok ms =>
        obtain ⟨size, hsize⟩ := hgathered.sized_alone t ht
        cases hfault.unique hsize

theorem answeredAlone_of_toOption {size : ObjectSize} (rounds : Nat)
    (h : (({ store := access } : Census Access).objectSize Access.store rounds id).bind
      (·.1.toOption) = some size) : AnsweredAlone Access.store access id (.ok size) := by
  obtain ⟨⟨answer, c⟩, hsize, hanswer⟩ := Option.bind_eq_some_iff.mp h
  cases answer with
  | error fault => cases hanswer
  | ok size' =>
      obtain rfl := Option.some.inj hanswer
      exact ⟨rounds, c, hsize⟩

def plainScan : List String := ["--backend=dulwich", "-r", ".", "scan"]

/-- Two branches of the first tree, one of the second, and one of the blob. -/
def branchedRepository : Repository := looseRepository 0 sharedObjects
  [(Bytes.ofAscii "refs/heads/z", .direct (repeating 1)),
    (Bytes.ofAscii "refs/heads/m", .direct (repeating 2)),
    (Bytes.ofAscii "refs/heads/k", .direct (repeating 1)),
    (Bytes.ofAscii "refs/heads/a", .direct (repeating 9))]

def branchedReport : String :=
  "max_depth                     3  refs/heads/k\n" ++
  "max_path_length               5  refs/heads/m\n" ++
  "tree_count                    2  refs/heads/k\n" ++
  "max_tree_entries              2  refs/heads/k\n" ++
  "blob_count                    2  refs/heads/k\n" ++
  "blob_size                     6  refs/heads/k\n" ++
  "link_count                    1  refs/heads/m\n" ++
  "submodule_count               0  refs/heads/k\n"

/-- A branch of the first tree, and one of an object that is missing. -/
def lostRepository : Repository := looseRepository 0 sharedObjects
  [(Bytes.ofAscii "refs/heads/b", .direct .zero),
    (Bytes.ofAscii "refs/heads/a", .direct (repeating 1))]

def branches : List (String × ObjectId) :=
  [("refs/heads/a", repeating 9), ("refs/heads/k", repeating 1), ("refs/heads/m", repeating 2),
    ("refs/heads/z", repeating 1)]

def firstSize : TreeSize where
  maxDepth := 3
  maxPathLength := 3
  treeCount := 2
  maxTreeEntries := 2
  blobCount := 2
  blobSize := 6

def secondSize : TreeSize where
  maxDepth := 3
  maxPathLength := 5
  treeCount := 2
  maxTreeEntries := 2
  blobCount := 1
  blobSize := 3
  linkCount := 1

/-- What the branches come to one after the other, each sized alone. -/
theorem gathered_branches : Gathered Access.store (.openDatabase branchedRepository) branches []
    (.ok (((Maxima.add "refs/heads/k" firstSize []).add "refs/heads/m" secondSize).add
      "refs/heads/z" firstSize)) := by
  have hblob : AnsweredAlone Access.store (.openDatabase branchedRepository) (repeating 9)
      (.ok (.blob ⟨3⟩)) := answeredAlone_of_toOption 0 (by decide +kernel)
  have hfirst : AnsweredAlone Access.store (.openDatabase branchedRepository) (repeating 1)
      (.ok (.tree firstSize)) := answeredAlone_of_toOption 4 (by decide +kernel)
  have hsecond : AnsweredAlone Access.store (.openDatabase branchedRepository) (repeating 2)
      (.ok (.tree secondSize)) := answeredAlone_of_toOption 4 (by decide +kernel)
  exact .sized hblob (.sized hfirst (.sized hsecond (.sized hfirst (.done _))))

/-- The blob comes first and holds no maximum, the branches of one tree come to the same values
and the first of them holds these, and the other tree has the longest path and the link.  The
missing object makes the scan fail. -/
theorem scan_reports_maxima_shared :
    (∃ enough o, (∀ rounds, enough ≤ rounds →
          run rounds (hostOf branchedRepository) {} plainScan = some o) ∧
        o.exitCode = 0 ∧ o.output = branchedReport) ∧
      ∃ enough o, (∀ rounds, enough ≤ rounds →
          run rounds (hostOf lostRepository) {} plainScan = some o) ∧
        o.Reports false (.sizing (.missing .zero)) := by
  have hread : Invocation.read {} plainScan =
      .ok { plainInvocation [] with task := .scan [] .text } := by rfl
  constructor
  · have hopen : openRepository (hostOf branchedRepository) (plainInvocation []) =
        .ok branchedRepository := rfl
    have hscanned : scanned branchedRepository [] = branches :=
      scanned_eq (by decide +kernel) (by decide +kernel)
    have hgathered := gathered_branches
    obtain ⟨hsucceeds, -⟩ := scan_reports_maxima rfl hopen rfl hread
    rw [hscanned] at hsucceeds
    obtain ⟨enough, o, ms, hrun, hcode, hstates, -, hempty, hmaxima⟩ :=
      hsucceeds hgathered.sized_alone
    have hof : Maxima.Of (TreeAmong Access.store (.openDatabase branchedRepository) branches) _ :=
      (hgathered.maxima_of .none (by decide +kernel) (by simp)).congr (by simp)
    obtain rfl := Maxima.Of.unique ⟨hempty, hmaxima⟩ hof
    exact ⟨enough, o, hrun, hcode, hstates.trans (by decide +kernel)⟩
  · have hopen : openRepository (hostOf lostRepository) (plainInvocation []) =
        .ok lostRepository := rfl
    have hscanned : scanned lostRepository [] =
        [("refs/heads/a", repeating 1), ("refs/heads/b", .zero)] :=
      scanned_eq (by decide +kernel) (by decide +kernel)
    have hfirst : AnsweredAlone Access.store (.openDatabase lostRepository) (repeating 1)
        (.ok (.tree firstSize)) := answeredAlone_of_toOption 4 (by decide +kernel)
    have hmissing : AnsweredAlone Access.store (.openDatabase lostRepository) .zero
        (.error (.missing .zero)) := ⟨0, _, rfl⟩
    obtain ⟨-, hfails⟩ := scan_reports_maxima rfl hopen rfl hread
    rw [hscanned] at hfails
    obtain ⟨hreports, hends⟩ := hfails ⟨("refs/heads/b", .zero), by simp, _, hmissing⟩
    obtain ⟨enough, o, hrun⟩ := hends (List.forall_mem_cons.mpr
      ⟨⟨_, hfirst⟩, List.forall_mem_singleton.mpr ⟨_, hmissing⟩⟩)
    obtain ⟨before, t, after, fault, hsplit, -, hfault, hreport⟩ :=
      hreports enough o (hrun enough (Nat.le_refl enough))
    have hmem : t ∈ [("refs/heads/a", repeating 1), ("refs/heads/b", .zero)] := by simp [hsplit]
    rcases List.mem_cons.mp hmem with rfl | hmem
    · cases hfault.unique hfirst
    · obtain rfl := List.mem_singleton.mp hmem
      cases hfault.unique hmissing
      exact ⟨enough, o, hrun, hreport⟩

end GitCensus.CommandLine
