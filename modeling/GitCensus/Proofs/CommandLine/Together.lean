import GitCensus.CommandLine.Run
import GitCensus.Proofs.CommandLine.Session
import GitCensus.Proofs.Database.Loose
import GitCensus.Proofs.Report.Writing
import GitCensus.Proofs.Repository.Access
/-!
# Sizing many objects at once

A call that sizes many objects does what the calls for one of them do: its report is put
together from theirs, or it reports what the first of them reports that fails.  Texts
that name no object come first, since all are resolved before one is sized.
-/

namespace GitCensus

namespace CommandLine

open ObjectId (repeating)

/-- An outcome reports a failure and nothing else but progress.  The failure is worded, unless
it is a fault that callers are not told of: this one breaks the program off. -/
structure Outcome.Reports (o : Outcome) (verbose : Bool) (f : Failure) : Prop where
  exitCode : o.exitCode = 1
  output : o.output = ""
  errors : ∃ progress : List String,
    (∀ cause, f = .sizing cause → cause.isReported) ∧ o.brokenOff = none ∧
        o.errors = (if verbose then Report.lines progress else "") ++
          "Error: " ++ f.message ++ "\n" ∨
      ∃ cause, f = .sizing cause ∧ ¬ cause.isReported ∧ o.brokenOff = some cause ∧
        o.errors = if verbose then Report.lines progress else ""

variable {host : Host} {env : Environment} {args : List String} {i : Invocation} {r : Repository}
  {specs : List String} {format : Report.Format} {ts : List (String × ObjectId)} {f : Failure}
  {rounds rounds' : Nat}

/-! ## Rounds that suffice -/

theorem perform_mono {result : TaskResult} (h : perform rounds host i = some result) (more : Nat) :
    perform (rounds + more) host i = some result := by
  unfold perform at h ⊢
  cases htask : i.task with
  | size objects format =>
      simp only [htask, runSize] at h ⊢
      split at h
      · exact h
      · obtain ⟨result', hall, rfl⟩ := Option.map_eq_some_iff.mp h
        rw [Session.sizeAll_mono hall more]
        rfl
  | scan rules format =>
      simp only [htask, runScan] at h ⊢
      split at h
      · exact h
      · split at h
        · exact h
        · obtain ⟨result', hall, rfl⟩ := Option.map_eq_some_iff.mp h
          rw [Session.scanAll_mono hall more]
          rfl

theorem run_mono {o : Outcome} (h : run rounds host env args = some o) (more : Nat) :
    run (rounds + more) host env args = some o := by
  unfold run at h ⊢
  cases hextra : host.hasExtra with
  | false => simpa [hextra] using h
  | true =>
      cases hread : Invocation.read env args with
      | error e => simpa [hextra, hread] using h
      | ok i =>
          simp only [hextra, hread, Bool.not_true, Bool.false_eq_true, if_false] at h ⊢
          obtain ⟨result, hperform, rfl⟩ := Option.map_eq_some_iff.mp h
          rw [perform_mono hperform more]
          rfl

theorem run_of_le {o : Outcome} (h : run rounds host env args = some o) (hle : rounds ≤ rounds') :
    run rounds' host env args = some o := by
  rw [← Nat.add_sub_cancel' hle]
  exact run_mono h _

/-- A run ends in one way, however many rounds it is allowed. -/
theorem run_unique {o o' : Outcome} (h : run rounds host env args = some o)
    (h' : run rounds' host env args = some o') : o = o' := by
  have hmore := run_mono h rounds'
  rw [Nat.add_comm, run_mono h' rounds] at hmore
  exact (Option.some.inj hmore).symm

/-! ## Targets -/

/-- The digits of an id lead to it, whatever the repository holds. -/
theorem resolve?_hex (r : Repository) (id : ObjectId) : r.resolve? id.hex = some id := by
  have hdigits : (id.hex.toList.all fun c => (Text.Hex.digitValue? c).isSome) = true := by
    rw [ObjectId.hex, Text.Hex.text, String.toList_ofList, List.all_eq_true]
    intro c hc
    obtain ⟨n, hn, rfl⟩ := Text.Hex.mem_encode hc
    rw [(Text.Hex.digit_spec hn).2.2.2]
    rfl
  rw [Repository.resolve?, Repository.idOf?, if_pos hdigits, id.ofHex_hex]
  rfl

theorem targets_eq_mapM (r : Repository) (specs : List String) :
    targets r specs = specs.mapM (target r) := by
  induction specs with
  | nil => rfl
  | cons spec specs ih =>
      rw [targets, ih]
      cases htarget : target r spec with
      | error f => rw [mapM_cons_of_error htarget]
      | ok t => rw [mapM_cons_of_ok htarget]

theorem target_eq_ok {spec : String} {t : String × ObjectId} (h : target r spec = .ok t) :
    t.1 = spec ∧ (r.resolve? spec).isSome := by
  unfold target at h
  split at h
  next id hresolve =>
    obtain rfl := Except.ok.inj h
    exact ⟨rfl, by rw [hresolve]; rfl⟩
  next => cases h

theorem target_eq_error {spec : String} (h : target r spec = .error f) :
    r.resolve? spec = none ∧ f = .unknownReference spec := by
  unfold target at h
  split at h
  next => cases h
  next hresolve => exact ⟨hresolve, (Except.error.inj h).symm⟩

/-- Targets know the texts that they were found for. -/
theorem specs_of_targets (h : specs.mapM (target r) = .ok ts) :
    specs = ts.map Prod.fst ∧ ∀ t ∈ ts, target r t.1 = .ok t := by
  have hall := forall₂_of_mapM h
  clear h
  induction hall with
  | nil => exact ⟨rfl, by simp⟩
  | @cons spec t specs ts htarget _ ih =>
      obtain ⟨rfl, -⟩ := target_eq_ok htarget
      exact ⟨by rw [List.map_cons, ← ih.1], List.forall_mem_cons.mpr ⟨htarget, ih.2⟩⟩

/-! ## Sizing -/

/-- Sizing objects ends with a report or a failure. -/
def Ends (host : Host) (i : Invocation) (specs : List String) (format : Report.Format)
    (result : Except Failure String) : Prop :=
  ∃ rounds lines, runSize rounds host i specs format = some (result, lines)

theorem ends_of_unresolved (hopen : openRepository host i = .ok r)
    (htargets : specs.mapM (target r) = .error f) : Ends host i specs format (.error f) := by
  refine ⟨0, [], ?_⟩
  rw [← targets_eq_mapM] at htargets
  simp [runSize, hopen, htargets, bind, Except.bind]

theorem ends_of_unopened (hopen : openRepository host i = .ok r)
    (htargets : specs.mapM (target r) = .ok ts) (hstore : openStore host i r = .error f) :
    Ends host i specs format (.error f) := by
  refine ⟨0, [], ?_⟩
  rw [← targets_eq_mapM] at htargets
  simp [runSize, hopen, htargets, hstore, bind, Except.bind]

theorem runSize_of_open {access : Repository.Access} (hopen : openRepository host i = .ok r)
    (htargets : specs.mapM (target r) = .ok ts) (hstore : openStore host i r = .ok access) :
    runSize rounds host i specs format =
      (Session.sizeAll source rounds ts { census := { store := access } }).map fun (rows, s) =>
        ((rows.map (Report.sizes format)).mapError .sizing, s.lines) := by
  rw [← targets_eq_mapM] at htargets
  simp only [runSize, hopen, htargets, hstore, bind, Except.bind, pure, Except.pure]
  congr 1
  funext ⟨rows, s⟩
  cases rows <;> rfl

theorem openStore_steady {access : Repository.Access} (hstore : openStore host i r = .ok access) :
    ∃ I, Repository.Access.store.Steady I ∧ I access := by
  unfold openStore at hstore
  split at hstore
  · obtain rfl := Except.ok.inj hstore
    exact Repository.Access.openDatabase_steady r
  · split at hstore
    · obtain rfl := Except.ok.inj hstore
      exact Repository.Access.openClient_steady r
    · cases hstore

/-- An object that is sized alone is answered in a census without records. -/
theorem exists_answer {access : Repository.Access} {t : String × ObjectId}
    {result : Except Failure String} (hopen : openRepository host i = .ok r)
    (htarget : target r t.1 = .ok t) (hstore : openStore host i r = .ok access)
    (h : Ends host i [t.1] format result) :
    ∃ answer, AnsweredAlone Repository.Access.store access t.2 answer := by
  obtain ⟨rounds, lines, hsize⟩ := h
  rw [runSize_of_open hopen (mapM_cons_of_ok htarget) hstore] at hsize
  obtain ⟨⟨rows, s⟩, hall, -⟩ := Option.map_eq_some_iff.mp hsize
  exact Session.answeredAlone_of_sizeAll hall

/-- Answers go with the ids, so that texts for one object share theirs. -/
theorem exists_answers {access : Repository.Access}
    (h : ∀ t ∈ ts, ∃ answer, AnsweredAlone Repository.Access.store access t.2 answer) :
    ∃ answer : ObjectId → Except Fault ObjectSize,
      ∀ t ∈ ts, AnsweredAlone Repository.Access.store access t.2 (answer t.2) := by
  have hanswers : ∀ id : ObjectId, (∃ t ∈ ts, t.2 = id) →
      ∃ answer, AnsweredAlone Repository.Access.store access id answer := by
    rintro _ ⟨t, ht, rfl⟩
    exact h t ht
  have : Nonempty (Except Fault ObjectSize) := ⟨.error .readTooLong⟩
  choose! answer hanswer using hanswers
  exact ⟨answer, fun t ht => hanswer t.2 ⟨t, ht, rfl⟩⟩

theorem ends_of_answers {access : Repository.Access} {answer : ObjectId → Except Fault ObjectSize}
    (hopen : openRepository host i = .ok r) (htargets : specs.mapM (target r) = .ok ts)
    (hstore : openStore host i r = .ok access)
    (halone : ∀ t ∈ ts, AnsweredAlone Repository.Access.store access t.2 (answer t.2)) :
    Ends host i specs format
      (((ts.mapM (rowOf answer)).map (Report.sizes format)).mapError .sizing) := by
  obtain ⟨I, hS, haccess⟩ := openStore_steady hstore
  obtain ⟨rounds, s, hall⟩ := Session.exists_sizeAll (S := source)
    (s := { census := { store := access } }) hS haccess halone (.fresh haccess) rfl
  refine ⟨rounds, s.lines, ?_⟩
  rw [runSize_of_open hopen htargets hstore, hall]
  rfl

/-- How sizing some objects ends, by how sizing each of them alone ends. -/
inductive Combined (host : Host) (i : Invocation) (r : Repository) (format : Report.Format) :
    List String → Except Failure String → Prop
  | report {specs : List String} (rows : List Report.Row)
      (hrows : List.Forall₂ (fun spec row =>
        Ends host i [spec] format (.ok (Report.sizes format [row]))) specs rows) :
      Combined host i r format specs (.ok (Report.sizes format rows))
  /-- Some text names no object, or all do but some object has no size. -/
  | failure (before : List String) (spec : String) (after : List String) {f : Failure}
      (halone : Ends host i [spec] format (.error f))
      (hfirst : r.resolve? spec = none ∧ f = .unknownReference spec ∧
          (∀ b ∈ before, (r.resolve? b).isSome) ∨
        (∀ s ∈ before ++ spec :: after, (r.resolve? s).isSome) ∧
          ∀ b ∈ before, ∃ output, Ends host i [b] format (.ok output)) :
      Combined host i r format (before ++ spec :: after) (.error f)

theorem exists_combined (hopen : openRepository host i = .ok r) (hne : specs ≠ [])
    (hends : ∀ spec ∈ specs, ∃ result, Ends host i [spec] format result) :
    ∃ result, Ends host i specs format result ∧ Combined host i r format specs result := by
  cases htargets : specs.mapM (target r) with
  | error f =>
      obtain ⟨before, spec, after, rfl, hbefore, hspec⟩ := exists_first_of_mapM htargets
      obtain ⟨hresolve, rfl⟩ := target_eq_error hspec
      refine ⟨_, ends_of_unresolved hopen htargets, .failure before spec after
        (ends_of_unresolved hopen (mapM_cons_of_error hspec)) (.inl ⟨hresolve, rfl, ?_⟩)⟩
      intro b hb
      obtain ⟨t, htarget⟩ := hbefore b hb
      exact (target_eq_ok htarget).2
  | ok ts =>
      obtain ⟨rfl, htarget⟩ := specs_of_targets htargets
      have hresolved : ∀ spec ∈ ts.map Prod.fst, (r.resolve? spec).isSome :=
        List.forall_mem_map.mpr fun t ht => (target_eq_ok (htarget t ht)).2
      have hsingle (t) (ht : t ∈ ts) : [t.1].mapM (target r) = .ok [t] :=
        mapM_cons_of_ok (htarget t ht)
      cases hstore : openStore host i r with
      | error f =>
          -- no store opens for any of the texts, so the first one is the first to fail
          obtain ⟨t, ts, rfl⟩ := List.exists_cons_of_ne_nil (List.map_eq_nil_iff.not.mp hne)
          exact ⟨_, ends_of_unopened hopen htargets hstore, .failure [] t.1 (ts.map Prod.fst)
            (ends_of_unopened hopen (hsingle t List.mem_cons_self) hstore)
            (.inr ⟨hresolved, by simp⟩)⟩
      | ok access =>
          -- each object alone has an answer in the store as opened, and the session repeats it
          have hanswers (t) (ht : t ∈ ts) :
              ∃ answer, AnsweredAlone Repository.Access.store access t.2 answer := by
            obtain ⟨result, hend⟩ := hends t.1 (List.mem_map_of_mem ht)
            exact exists_answer hopen (htarget t ht) hstore hend
          obtain ⟨answer, hanswer⟩ := exists_answers hanswers
          have halone (t) (ht : t ∈ ts) : Ends host i [t.1] format
              ((([t].mapM (rowOf answer)).map (Report.sizes format)).mapError .sizing) :=
            ends_of_answers hopen (hsingle t ht) hstore
              (List.forall_mem_singleton.mpr (hanswer t ht))
          refine ⟨_, ends_of_answers hopen htargets hstore hanswer, ?_⟩
          cases hrows : ts.mapM (rowOf answer) with
          | ok rows =>
              refine .report rows (List.forall₂_map_left_iff.mpr ?_)
              have hall := (List.forall₂_and_left _ _).mpr ⟨fun _ ht => ht, forall₂_of_mapM hrows⟩
              refine hall.imp ?_
              rintro t row ⟨ht, hrow⟩
              have hend := halone t ht
              rw [mapM_cons_of_ok hrow] at hend
              exact hend
          | error fault =>
              obtain ⟨before, t, after, rfl, hbefore, hrow⟩ := exists_first_of_mapM hrows
              rw [List.map_append, List.map_cons] at hresolved ⊢
              refine .failure _ t.1 _ ?_
                (.inr ⟨hresolved, List.forall_mem_map.mpr fun b hb => ?_⟩)
              · have hend := halone t (by simp)
                rw [mapM_cons_of_error hrow] at hend
                exact hend
              · obtain ⟨row, hrow⟩ := hbefore b hb
                have hend := halone b (by simp [hb])
                rw [mapM_cons_of_ok hrow] at hend
                exact ⟨_, hend⟩

/-! ## Runs -/

theorem reports_outcome (verbose : Bool) (f : Failure) (progress : List String) :
    (outcome verbose (.error f) progress).Reports verbose f := by
  cases hfault : f.unreported? with
  | none =>
      have hreported (cause) (hcause : f = .sizing cause) : cause.isReported := by
        simpa [hcause, Failure.unreported?] using hfault
      simp only [outcome, hfault]
      exact ⟨rfl, rfl, progress, .inl ⟨hreported, rfl, rfl⟩⟩
  | some fault =>
      have hcause : f = .sizing fault ∧ ¬ fault.isReported := by
        cases f with
        | sizing cause =>
            rw [Failure.unreported?, Option.ite_none_left_eq_some] at hfault
            obtain ⟨hreported, hsame⟩ := hfault
            obtain rfl := Option.some.inj hsame
            exact ⟨rfl, hreported⟩
        | _ => cases hfault
      simp only [outcome, hfault]
      exact ⟨rfl, rfl, progress, .inr ⟨fault, hcause.1, hcause.2, rfl, rfl⟩⟩

theorem run_of_read (hextra : host.hasExtra = true)
    (hread : Invocation.read env args = .ok { i with task := .size specs format }) (rounds : Nat) :
    run rounds host env args = (runSize rounds host i specs format).map fun (result, lines) =>
      outcome i.verbose result lines := by
  simp only [run, hextra, hread, Bool.not_true, Bool.false_eq_true, if_false]
  rfl

theorem ends_of_run {o : Outcome} (hextra : host.hasExtra = true)
    (hread : Invocation.read env args = .ok { i with task := .size specs format })
    (h : run rounds host env args = some o) : ∃ result, Ends host i specs format result := by
  rw [run_of_read hextra hread] at h
  obtain ⟨⟨result, lines⟩, hsize, -⟩ := Option.map_eq_some_iff.mp h
  exact ⟨result, rounds, lines, hsize⟩

theorem exists_run_of_ends {result : Except Failure String} (hextra : host.hasExtra = true)
    (hread : Invocation.read env args = .ok { i with task := .size specs format })
    (h : Ends host i specs format result) :
    ∃ enough lines, ∀ rounds, enough ≤ rounds →
      run rounds host env args = some (outcome i.verbose result lines) := by
  obtain ⟨enough, lines, hsize⟩ := h
  have hrun : run enough host env args = some (outcome i.verbose result lines) := by
    rw [run_of_read hextra hread, hsize]
    rfl
  exact ⟨enough, lines, fun _ hle => run_of_le hrun hle⟩

theorem outcome_of_ends {o : Outcome} {result : Except Failure String}
    (hextra : host.hasExtra = true)
    (hread : Invocation.read env args = .ok { i with task := .size specs format })
    (hrun : ∃ rounds, run rounds host env args = some o) (h : Ends host i specs format result) :
    ∃ lines, o = outcome i.verbose result lines := by
  obtain ⟨enough, lines, hall⟩ := exists_run_of_ends hextra hread h
  obtain ⟨rounds, hrun⟩ := hrun
  exact ⟨lines, run_unique hrun (hall enough (Nat.le_refl enough))⟩

/-- Sizing many objects in one call comes to the calls for each of them alone, if these
end.  If all succeed, so does the one call, and its output gathers their outputs in
order.  Otherwise it has no output and reports what the first of them reports whose text
names no object; if all texts name objects, what the first of them reports that fails. -/
theorem size_together_as_alone {single : String → List String} {alone : String → Outcome}
    (hextra : host.hasExtra = true) (hopen : openRepository host i = .ok r) (hne : specs ≠ [])
    (hread : Invocation.read env args = .ok { i with task := .size specs format })
    (hsingle : ∀ spec ∈ specs,
      Invocation.read env (single spec) = .ok { i with task := .size [spec] format })
    (halone : ∀ spec ∈ specs, ∃ rounds, run rounds host env (single spec) = some (alone spec)) :
    ∃ enough o, (∀ rounds, enough ≤ rounds → run rounds host env args = some o) ∧
      ((∀ spec ∈ specs, (alone spec).exitCode = 0) → o.exitCode = 0 ∧
        Report.Gathers format (specs.map fun spec => (alone spec).output) o.output) ∧
      ((∃ spec ∈ specs, (alone spec).exitCode ≠ 0) → ∃ before spec after f,
        specs = before ++ spec :: after ∧ (alone spec).Reports i.verbose f ∧
        o.Reports i.verbose f ∧
        (r.resolve? spec = none ∧ f = .unknownReference spec ∧
            (∀ b ∈ before, (r.resolve? b).isSome) ∨
          (∀ s ∈ specs, (r.resolve? s).isSome) ∧ ∀ b ∈ before, (alone b).exitCode = 0)) := by
  have hends (spec) (hspec : spec ∈ specs) : ∃ result, Ends host i [spec] format result := by
    obtain ⟨rounds, hrun⟩ := halone spec hspec
    exact ends_of_run hextra (hsingle spec hspec) hrun
  have houtcome (spec) (hspec : spec ∈ specs) {result} (hend : Ends host i [spec] format result) :=
    outcome_of_ends hextra (hsingle spec hspec) (halone spec hspec) hend
  obtain ⟨result, hend, hcombined⟩ := exists_combined hopen hne hends
  obtain ⟨enough, lines, hrun⟩ := exists_run_of_ends hextra hread hend
  refine ⟨enough, _, hrun, ?_⟩
  cases hcombined with
  | report rows hrows =>
      have hall : List.Forall₂ (fun spec row => (alone spec).exitCode = 0 ∧
          (alone spec).output = Report.sizes format [row]) specs rows := by
        refine ((List.forall₂_and_left _ _).mpr ⟨fun _ hspec => hspec, hrows⟩).imp ?_
        rintro spec row ⟨hspec, hend⟩
        obtain ⟨lines', heq⟩ := houtcome spec hspec hend
        rw [heq]
        exact ⟨rfl, rfl⟩
      obtain ⟨hsucceed, houtputs⟩ := (List.forall₂_and_left _ _).mp hall
      have hparts : specs.map (fun spec => (alone spec).output) =
          rows.map fun row => Report.sizes format [row] := by
        rw [← List.forall₂_eq_eq_eq]
        exact List.forall₂_map_left_iff.mpr (List.forall₂_map_right_iff.mpr houtputs)
      refine ⟨fun _ => ⟨rfl, ?_⟩, ?_⟩
      · rw [hparts]
        exact Report.gathers_sizes format rows
      · rintro ⟨spec, hspec, hfails⟩
        exact absurd (hsucceed spec hspec) hfails
  | @failure before spec after f hsame hfirst =>
      obtain ⟨lines', heq⟩ := houtcome spec (by simp) hsame
      have hreports : (alone spec).Reports i.verbose f := by
        rw [heq]
        exact reports_outcome _ _ _
      refine ⟨fun hsucceed => ?_, fun _ => ⟨before, spec, after, f, rfl, hreports, ?_, ?_⟩⟩
      · have hone := hreports.exitCode
        rw [hsucceed spec (by simp)] at hone
        cases hone
      · exact reports_outcome _ _ _
      · refine hfirst.imp_right fun ⟨hresolved, hbefore⟩ => ⟨hresolved, fun b hb => ?_⟩
        obtain ⟨output, hend'⟩ := hbefore b hb
        obtain ⟨_, heq'⟩ := houtcome b (by simp [hb]) hend'
        rw [heq']
        rfl

/-- A host on which every path leads to the same repository. -/
def hostOf (r : Repository) : Host where
  repository? _ := some r
  hasProgram _ := false

def plainCall (specs : List String) : List String :=
  ["--backend=dulwich", "-r", ".", "size"] ++ specs

def plainInvocation (specs : List String) : Invocation where
  repository := some "."
  backend := .database
  serverProgram := "git"
  verbose := false
  task := .size specs .text

/-- A repository that keeps each object in a loose file, as it is behind some empty blocks. -/
def looseRepository (emptyBlocks : Nat) (objects : List (ObjectId × Repository.Object))
    (references : List (Bytes × Repository.Reference)) : Repository where
  objects
  references
  loose := objects.map fun (id, o) => (id, Database.Loose.storedFile emptyBlocks o.digested)

/-- Two trees that share a third, which shares a blob with the first of them. -/
def sharedObjects : List (ObjectId × Repository.Object) := [
  (repeating 1, .tree (Tree.encode [⟨0o100644, [0x61], repeating 9⟩,
    ⟨0o40000, [0x62], repeating 3⟩])),
  (repeating 2, .tree (Tree.encode [⟨0o40000, [0x63, 0x63, 0x63], repeating 3⟩,
    ⟨0o120000, [0x64], .zero⟩])),
  (repeating 3, .tree (Tree.encode [⟨0o100644, [0x65], repeating 9⟩])),
  (repeating 9, .blob [7, 7, 7])]

/-- A branch of the first tree and a tag of the blob. -/
def namedRepository : Repository := looseRepository 0 sharedObjects
  [(Bytes.ofAscii "refs/heads/main", .direct (repeating 1)),
    (Bytes.ofAscii "refs/tags/notes", .direct (repeating 9))]

def branchReport : String :=
  "main tree " ++ (repeating 1).hex ++
    ": max_depth=3, max_path_length=3, tree_count=2, max_tree_entries=2, " ++
    "blob_count=2, blob_size=6, link_count=0, submodule_count=0\n"

def tagReport : String := "notes blob " ++ (repeating 9).hex ++ ": blob_size=3\n"

/-- The branch, the tag, and the branch again; and the id of a missing object, before a name
that no object has. -/
theorem size_together_as_alone_repeated_or_unknown :
    (∃ enough o, (∀ rounds, enough ≤ rounds → run rounds (hostOf namedRepository) {}
          (plainCall ["main", "notes", "main"]) = some o) ∧
        o.exitCode = 0 ∧ o.output = String.join [branchReport, tagReport, branchReport]) ∧
      run 0 (hostOf {}) {} (plainCall [ObjectId.zero.hex]) =
        some (outcome false (.error (.sizing (.missing .zero))) []) ∧
      ∃ enough o, (∀ rounds, enough ≤ rounds → run rounds (hostOf {}) {}
          (plainCall [ObjectId.zero.hex, "gone"]) = some o) ∧
        o.Reports false (.unknownReference "gone") := by
  let i := plainInvocation []
  constructor
  · let alone (spec : String) : Outcome :=
      outcome false (.ok (if spec = "main" then branchReport else tagReport)) []
    have hread : Invocation.read {} (plainCall ["main", "notes", "main"]) =
        .ok { i with task := .size ["main", "notes", "main"] .text } := by rfl
    have hmain : Invocation.read {} (plainCall ["main"]) =
        .ok { i with task := .size ["main"] .text } := by rfl
    have hnotes : Invocation.read {} (plainCall ["notes"]) =
        .ok { i with task := .size ["notes"] .text } := by rfl
    have hsingle : ∀ spec ∈ ["main", "notes", "main"],
        Invocation.read {} (plainCall [spec]) = .ok { i with task := .size [spec] .text } := by
      simp [hmain, hnotes]
    have halone : ∀ spec ∈ ["main", "notes", "main"],
        run 9 (hostOf namedRepository) {} (plainCall [spec]) = some (alone spec) := by
      decide +kernel
    obtain ⟨enough, o, htogether, hsucceeds, -⟩ :=
      size_together_as_alone (r := namedRepository) rfl rfl (by simp) hread hsingle
        fun spec hspec => ⟨9, halone spec hspec⟩
    exact ⟨enough, o, htogether, hsucceeds fun _ _ => rfl⟩
  · let alone (spec : String) : Outcome :=
      outcome false (.error (if spec = "gone" then .unknownReference spec
        else .sizing (.missing .zero))) []
    have hlost : Repository.resolve? {} ObjectId.zero.hex = some .zero := resolve?_hex {} .zero
    have hgone : Repository.resolve? {} "gone" = none := rfl
    have hreadZero : Invocation.read {} (plainCall [ObjectId.zero.hex]) =
        .ok { i with task := .size [ObjectId.zero.hex] .text } := by rfl
    have hread : Invocation.read {} (plainCall [ObjectId.zero.hex, "gone"]) =
        .ok { i with task := .size [ObjectId.zero.hex, "gone"] .text } := by rfl
    have hreadGone : Invocation.read {} (plainCall ["gone"]) =
        .ok { i with task := .size ["gone"] .text } := by rfl
    have hrunLost : run 0 (hostOf {}) {} (plainCall [ObjectId.zero.hex]) =
        some (alone ObjectId.zero.hex) := by decide +kernel
    have hrunGone : run 0 (hostOf {}) {} (plainCall ["gone"]) = some (alone "gone") := by
      decide +kernel
    have hsingle : ∀ spec ∈ [ObjectId.zero.hex, "gone"], Invocation.read {} (plainCall [spec]) =
        .ok { i with task := .size [spec] .text } :=
      List.forall_mem_cons.mpr ⟨hreadZero, List.forall_mem_singleton.mpr hreadGone⟩
    have halone : ∀ spec ∈ [ObjectId.zero.hex, "gone"],
        ∃ rounds, run rounds (hostOf {}) {} (plainCall [spec]) = some (alone spec) :=
      List.forall_mem_cons.mpr ⟨⟨0, hrunLost⟩, List.forall_mem_singleton.mpr ⟨0, hrunGone⟩⟩
    obtain ⟨enough, o, hrun, -, hfails⟩ :=
      size_together_as_alone (r := {}) rfl rfl (by simp) hread hsingle halone
    refine ⟨hrunLost, enough, o, hrun, ?_⟩
    obtain ⟨_, spec, _, f, hsplit, -, hreports, ⟨hspec, rfl, -⟩ | ⟨hresolved, -⟩⟩ :=
      hfails ⟨"gone", by simp, by decide⟩
    · have hmem : spec ∈ [ObjectId.zero.hex, "gone"] := by simp [hsplit]
      rcases List.mem_cons.mp hmem with rfl | hmem
      · rw [hlost] at hspec
        cases hspec
      · obtain rfl := List.mem_singleton.mp hmem
        exact hreports
    · have hsome := hresolved "gone" (by simp)
      rw [hgone] at hsome
      cases hsome

end CommandLine

end GitCensus
