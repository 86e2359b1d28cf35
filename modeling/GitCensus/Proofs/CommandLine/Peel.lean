import GitCensus.Proofs.CommandLine.Scan
import GitCensus.Proofs.Repository.Headers
import GitCensus.Proofs.Repository.Peel
/-!
# Runs that come to a long chain

An object that commits and tags lead to is sized where the chain ends.  If the chain goes on
beyond the limit, there is a commit or a tag where it is left, and these have no size; so a
run that comes to such a chain fails and has no output, whatever else it sizes.
-/

namespace GitCensus.CommandLine

open Census (Consistent)
open ObjectId (repeating)
open Repository (Access)

variable {host : Host} {env : Environment} {args : List String} {i : Invocation} {r : Repository}
  {access : Access} {start id : ObjectId} {o : Repository.Object} {rounds : Nat}

/-- The objects that a task starts from: those that its texts name, or those of the references
that its rules select. -/
inductive Task.StartsAt (r : Repository) : Task → ObjectId → Prop
  | size {objects : List String} {format : Report.Format} {spec : String} {start : ObjectId}
      (hspec : spec ∈ objects) (hresolve : r.resolve? spec = some start) :
      StartsAt r (.size objects format) start
  | scan {rules : List Selection.Rule} {format : Report.Format} {name : String} {start : ObjectId}
      (hname : (name, start) ∈ namedReferences r) (hselects : Selection.selects rules name = true) :
      StartsAt r (.scan rules format) start

/-! ## Commits and tags -/

theorem answeredAlone_of_fault {fault : Fault}
    (hheader : (Access.store.readHeader id access).1 = .error fault) :
    AnsweredAlone Access.store access id (.error fault) := by
  refine ⟨0, (Census.askHeader Access.store id { store := access }).2, ?_⟩
  simp only [Census.objectSize, Census.askHeader_eq, hheader]

theorem answeredAlone_of_unsized {header : Header}
    (hheader : (Access.store.readHeader id access).1 = .ok header)
    (hkind : header.kind = .commit ∨ header.kind = .tag) :
    AnsweredAlone Access.store access id (.error (.unsizedKind id header.kind.name)) := by
  refine ⟨0, (Census.askHeader Access.store id { store := access }).2, ?_⟩
  simp only [Census.objectSize, Census.askHeader_eq, hheader]
  cases hkind with
  | inl hcommit => simp only [hcommit]
  | inr htag => simp only [htag]

/-- An opened repository answers for a commit or a tag with a fault.  It is the one on the kind,
unless an object server states a size in more digits than a client reads, or the database does
not see the header and takes the file to be corrupt. -/
theorem exists_fault (hstore : openStore host i r = .ok access) (hobject : r.object? id = some o)
    (hkind : o.kind = .commit ∨ o.kind = .tag) (hintact : i.backend = .database → r.Intact) :
    ∃ fault, AnsweredAlone Access.store access id (.error fault) ∧
      ((i.backend = .server → o.content.length < 10 ^ Text.Decimal.digitLimit) →
        (i.backend = .database → r.ShowsHeader id) → fault = .unsizedKind id o.kind.name) ∧
      (i.backend = .database → ¬ r.ShowsHeader id →
        fault = .protocol (.corruptLooseHeader id)) := by
  unfold openStore at hstore
  cases hbackend : i.backend with
  | database =>
      rw [hbackend] at hstore
      obtain rfl := Except.ok.inj hstore
      have hheader := Access.readHeader_openDatabase r id
      obtain ⟨hseen, hhidden⟩ := (hintact hbackend).headerOf_database hobject
      by_cases hshows : r.ShowsHeader id
      · rw [hseen hshows] at hheader
        exact ⟨_, answeredAlone_of_unsized hheader hkind, fun _ _ => rfl,
          fun _ hnot => absurd hshows hnot⟩
      · rw [hhidden hshows] at hheader
        exact ⟨_, answeredAlone_of_fault hheader, fun _ hshows' => absurd (hshows' rfl) hshows,
          fun _ _ => rfl⟩
  | server =>
      rw [hbackend] at hstore
      dsimp only at hstore
      split at hstore
      · obtain rfl := Except.ok.inj hstore
        have hother : Backend.server ≠ .database := by decide
        have hfind : r.objectMap.find? id = some o.stored := by
          rw [Repository.find?_objectMap, hobject]
          rfl
        have hheader := Access.readHeader_openClient r id
        rw [CatFile.Client.headerOf, hfind] at hheader
        dsimp only at hheader
        cases hsize : Channel.Reply.readSize id (Text.Decimal.digits o.stored.content.length) with
        | error fault =>
            rw [hsize] at hheader
            refine ⟨fault, answeredAlone_of_fault hheader, fun hshort _ => ?_,
              fun hbackend => absurd hbackend hother⟩
            cases hsize.symm.trans (Channel.Reply.readSize_digits (hshort rfl))
        | ok size =>
            rw [hsize] at hheader
            exact ⟨_, answeredAlone_of_unsized hheader hkind, fun _ _ => rfl,
              fun hbackend => absurd hbackend hother⟩
      · cases hstore

/-! ## Tasks -/

section Sessions

variable {σ : Type} {S : Source σ} {I : σ → Prop} {s₀ : σ} {s s' : Session σ}
  {ts : List (String × ObjectId)} {rows : List Report.Row}

/-- A session that has rows for its objects has sized each of them as it is sized alone. -/
theorem Session.sized_alone_of_sizeAll (hS : S.store.Steady I) (hs₀ : I s₀)
    (hc : Consistent S.store s₀ I s.census) (hpending : s.census.pending.ids = [])
    (h : sizeAll S rounds ts s = some (.ok rows, s')) :
    ∀ t ∈ ts, ∃ size, AnsweredAlone S.store s₀ t.2 (.ok size) := by
  induction ts generalizing s s' rows with
  | nil => simp
  | cons t ts ih =>
      obtain ⟨name, id⟩ := t
      cases hsize : s.census.objectSize S.store rounds id with
      | none => simp [sizeAll, measure, say, hsize] at h
      | some answered =>
          obtain ⟨answer, c⟩ := answered
          cases answer with
          | error fault =>
              obtain ⟨s'', hall⟩ := sizeAll_cons_of_error name ts hsize
              cases hall.symm.trans h
          | ok size =>
              have halone := answeredAlone_of_objectSize hS hs₀ hc hpending hsize
              obtain ⟨hc₁, hpending₁⟩ := consistent_of_sized hS hs₀ hc hpending hsize
              obtain ⟨s₁, rfl, hall⟩ := sizeAll_cons_of_ok (S := S) s c name id ts
              rw [hall hsize] at h
              obtain ⟨⟨rest, s₂⟩, hrest, heq⟩ := Option.map_eq_some_iff.mp h
              cases rest with
              | error fault => cases heq
              | ok rest => exact List.forall_mem_cons.mpr ⟨⟨size, halone⟩, ih hc₁ hpending₁ hrest⟩

end Sessions

variable {result : Except Failure String} {lines : List String}

theorem runSize_fails {objects : List String} {format : Report.Format} {spec : String}
    (hopen : openRepository host i = .ok r) (hspec : spec ∈ objects)
    (hresolve : r.resolve? spec = some start)
    (hfault : ∀ access, openStore host i r = .ok access →
      ∃ fault, AnsweredAlone Access.store access (r.peel start) (.error fault))
    (h : runSize rounds host i objects format = some (result, lines)) :
    ∃ f, result = .error f := by
  cases htargets : objects.mapM (target r) with
  | error f =>
      rw [← targets_eq_mapM] at htargets
      simp only [runSize, hopen, htargets, bind, Except.bind] at h
      obtain ⟨rfl, -⟩ := Prod.mk.inj (Option.some.inj h)
      exact ⟨f, rfl⟩
  | ok ts =>
      cases hstore : openStore host i r with
      | error f =>
          rw [← targets_eq_mapM] at htargets
          simp only [runSize, hopen, htargets, hstore, bind, Except.bind] at h
          obtain ⟨rfl, -⟩ := Prod.mk.inj (Option.some.inj h)
          exact ⟨f, rfl⟩
      | ok access =>
          obtain ⟨I, hS, haccess⟩ := openStore_steady hstore
          obtain ⟨hnames, htarget⟩ := specs_of_targets htargets
          rw [runSize_of_open hopen htargets hstore] at h
          obtain ⟨⟨rows, s⟩, hall, heq⟩ := Option.map_eq_some_iff.mp h
          cases rows with
          | error fault =>
              obtain ⟨rfl, -⟩ := Prod.mk.inj heq
              exact ⟨.sizing fault, rfl⟩
          | ok rows =>
              rw [hnames] at hspec
              obtain ⟨t, ht, rfl⟩ := List.mem_map.mp hspec
              have hpeeled := htarget t ht
              rw [target, hresolve] at hpeeled
              obtain ⟨size, hsize⟩ := Session.sized_alone_of_sizeAll (S := source) hS haccess
                (.fresh haccess) rfl hall t ht
              rw [← Except.ok.inj hpeeled] at hsize
              obtain ⟨fault, hfault⟩ := hfault access hstore
              cases hfault.unique hsize

theorem runScan_fails {rules : List Selection.Rule} {format : Report.Format} {name : String}
    (hopen : openRepository host i = .ok r) (hname : (name, start) ∈ namedReferences r)
    (hselects : Selection.selects rules name = true)
    (hfault : ∀ access, openStore host i r = .ok access →
      ∃ fault, AnsweredAlone Access.store access (r.peel start) (.error fault))
    (h : runScan rounds host i rules format = some (result, lines)) :
    ∃ f, result = .error f := by
  cases hstore : openStore host i r with
  | error f =>
      simp only [runScan, hopen, hstore] at h
      obtain ⟨rfl, -⟩ := Prod.mk.inj (Option.some.inj h)
      exact ⟨f, rfl⟩
  | ok access =>
      obtain ⟨maxima, hgathered, rfl⟩ := gathered_of_runScan hopen hstore h
      cases maxima with
      | error fault => exact ⟨.sizing fault, rfl⟩
      | ok maxima =>
          have hscanned : (name, r.peel start) ∈ scanned r rules :=
            mem_scanned_iff.mpr ⟨start, hname, hselects, rfl⟩
          obtain ⟨size, hsize⟩ := hgathered.sized_alone _ hscanned
          obtain ⟨fault, hfault⟩ := hfault access hstore
          cases hfault.unique hsize

/-- A task fails that starts from an object that leads to one without a size. -/
theorem perform_fails (hopen : openRepository host i = .ok r) (hstarts : i.task.StartsAt r start)
    (hfault : ∀ access, openStore host i r = .ok access →
      ∃ fault, AnsweredAlone Access.store access (r.peel start) (.error fault))
    (h : perform rounds host i = some (result, lines)) : ∃ f, result = .error f := by
  rw [perform] at h
  generalize i.task = task at hstarts h
  cases hstarts with
  | size hspec hresolve => exact runSize_fails hopen hspec hresolve hfault h
  | scan hname hselects => exact runScan_fails hopen hname hselects hfault h

theorem exists_runSize {objects : List String} (format : Report.Format)
    (hopen : openRepository host i = .ok r)
    (halone : ∀ access spec id, openStore host i r = .ok access → spec ∈ objects →
      r.resolve? spec = some id → ∃ answer, AnsweredAlone Access.store access (r.peel id) answer) :
    ∃ result, Ends host i objects format result := by
  cases htargets : objects.mapM (target r) with
  | error f => exact ⟨.error f, ends_of_unresolved hopen htargets⟩
  | ok ts =>
      cases hstore : openStore host i r with
      | error f => exact ⟨.error f, ends_of_unopened hopen htargets hstore⟩
      | ok access =>
          obtain ⟨rfl, htarget⟩ := specs_of_targets htargets
          have hanswers (t) (ht : t ∈ ts) :
              ∃ answer, AnsweredAlone Access.store access t.2 answer := by
            obtain ⟨id, hresolve⟩ := Option.isSome_iff_exists.mp (target_eq_ok (htarget t ht)).2
            have hpeeled := htarget t ht
            rw [target, hresolve] at hpeeled
            rw [← Except.ok.inj hpeeled]
            exact halone access t.1 id hstore (List.mem_map_of_mem ht) hresolve
          obtain ⟨answer, hanswer⟩ := exists_answers hanswers
          exact ⟨_, ends_of_answers hopen htargets hstore hanswer⟩

/-- A task ends if each object is answered that it leads to. -/
theorem exists_perform (hopen : openRepository host i = .ok r)
    (halone : ∀ access id, openStore host i r = .ok access → i.task.StartsAt r id →
      ∃ answer, AnsweredAlone Access.store access (r.peel id) answer) :
    ∃ rounds result, perform rounds host i = some result := by
  unfold perform
  generalize i.task = task at halone
  cases task with
  | size objects format =>
      have hends : ∃ result, Ends host i objects format result := by
        apply exists_runSize format hopen
        intro access spec id hstore hspec hresolve
        exact halone access id hstore (.size hspec hresolve)
      obtain ⟨result, rounds, lines, hsize⟩ := hends
      exact ⟨rounds, _, hsize⟩
  | scan rules format =>
      cases hstore : openStore host i r with
      | error f => exact ⟨0, by simp [runScan, hopen, hstore]⟩
      | ok access =>
          apply exists_runScan format hopen hstore
          rintro ⟨name, id⟩ ht
          obtain ⟨start, hname, hselects, rfl⟩ := mem_scanned_iff.mp ht
          exact halone access start hstore (.scan hname hselects)

/-! ## Runs -/

/-- A run fails and has no output if its task fails. -/
theorem run_fails {o : Outcome} (hread : Invocation.read env args = .ok i)
    (hfails : ∀ result lines, perform rounds host i = some (result, lines) →
      ∃ f, result = .error f)
    (h : run rounds host env args = some o) : o.exitCode = 1 ∧ o.output = "" := by
  cases hextra : host.hasExtra with
  | false =>
      simp only [run, hextra, Bool.not_false, if_true] at h
      obtain rfl := Option.some.inj h
      exact ⟨rfl, rfl⟩
  | true =>
      simp only [run, hextra, hread, Bool.not_true, Bool.false_eq_true, if_false] at h
      obtain ⟨⟨result, lines⟩, hperform, rfl⟩ := Option.map_eq_some_iff.mp h
      obtain ⟨f, rfl⟩ := hfails result lines hperform
      have hreports := reports_outcome i.verbose f lines
      exact ⟨hreports.exitCode, hreports.output⟩

theorem exists_run_of_perform (hread : Invocation.read env args = .ok i)
    (hends : ∃ rounds result, perform rounds host i = some result) :
    ∃ enough o, ∀ rounds, enough ≤ rounds → run rounds host env args = some o := by
  obtain ⟨enough, result, hperform⟩ := hends
  cases hextra : host.hasExtra with
  | false => exact ⟨0, _, fun rounds _ => by simp only [run, hextra]; rfl⟩
  | true =>
      have hrun : run enough host env args = some (outcome i.verbose result.1 result.2) := by
        simp only [run, hextra, hread, hperform]
        rfl
      exact ⟨enough, _, fun _ hle => run_of_le hrun hle⟩

/-- If a chain of commits and tags ends after at most fifty steps, with a tree, a blob or an id
of no object, it is followed to that end, and from there nowhere else.  If it goes on, it is
left after exactly fifty steps, at a commit or a tag.  Sizing that ends with the fault on its
kind, except that a database whose files are intact takes a file for corrupt whose beginning
does not show the header.  Each run that starts from such a chain fails and has no output. -/
theorem peel_follows_chain (r : Repository) (start : ObjectId) :
    (∀ n id, n ≤ 50 → r.Leads n start id → r.EndsAt id → r.peel start = id ∧ r.peel id = id) ∧
    ((∀ n id, n ≤ 50 → r.Leads n start id → ¬ r.EndsAt id) →
      r.Leads 50 start (r.peel start) ∧ ∃ object, r.object? (r.peel start) = some object ∧
        (object.kind = .commit ∨ object.kind = .tag) ∧
        (∀ host i access, openStore host i r = .ok access → (i.backend = .database → r.Intact) →
          ((i.backend = .server → object.content.length < 10 ^ Text.Decimal.digitLimit) →
            (i.backend = .database → r.ShowsHeader (r.peel start)) →
            AnsweredAlone Access.store access (r.peel start)
              (.error (.unsizedKind (r.peel start) object.kind.name))) ∧
          (i.backend = .database → ¬ r.ShowsHeader (r.peel start) →
            AnsweredAlone Access.store access (r.peel start)
              (.error (.protocol (.corruptLooseHeader (r.peel start)))))) ∧
        ∀ host env args i, openRepository host i = .ok r → Invocation.read env args = .ok i →
          (i.backend = .database → r.Intact) → i.task.StartsAt r start →
          (∀ rounds o, run rounds host env args = some o → o.exitCode = 1 ∧ o.output = "") ∧
          ((∀ access id, openStore host i r = .ok access → i.task.StartsAt r id →
              ∃ answer, AnsweredAlone Access.store access (r.peel id) answer) →
            ∃ enough o, ∀ rounds, enough ≤ rounds → run rounds host env args = some o)) := by
  refine ⟨fun n id hle hleads hend => Repository.peel_of_leads hleads hend hle, ?_⟩
  intro hbeyond
  have hbeyond : r.GoesBeyond start := hbeyond
  obtain ⟨object, hobject, hkind⟩ := hbeyond.exists_object
  refine ⟨hbeyond.leads, object, hobject, hkind, ?_, ?_⟩
  · intro host i access hstore hintact
    obtain ⟨fault, halone, hunsized, hcorrupt⟩ := exists_fault hstore hobject hkind hintact
    constructor
    · intro hshort hshows
      rw [hunsized hshort hshows] at halone
      exact halone
    · intro hbackend hhidden
      rw [hcorrupt hbackend hhidden] at halone
      exact halone
  · intro host env args i hopen hread hintact hstarts
    constructor
    · intro rounds o hrun
      apply run_fails hread _ hrun
      intro result lines hperform
      apply perform_fails hopen hstarts _ hperform
      intro access hstore
      obtain ⟨fault, halone, -⟩ := exists_fault hstore hobject hkind hintact
      exact ⟨fault, halone⟩
    · intro halone
      exact exists_run_of_perform hread (exists_perform hopen halone)

def plainTag (target : ObjectId) (kind : ObjectKind) : Repository.Object :=
  .tag { target, targetKind := Bytes.ofAscii kind.name, name := [], tagger := [], message := [] }

/-- A tag of a commit of the empty tree, and a tag of itself. -/
def ringObjects : List (ObjectId × Repository.Object) := [
  (repeating 1, plainTag (repeating 2) .commit),
  (repeating 2, .commit { root := .zero, author := [], committer := [], message := [] }),
  (.zero, .tree []), (repeating 3, plainTag (repeating 3) .tag)]

/-- These objects in loose files, and a reference to the tag of itself. -/
def ringRepository (emptyBlocks : Nat) : Repository :=
  looseRepository emptyBlocks ringObjects
    [(Bytes.ofAscii "refs/tags/ring", .direct (repeating 3))]

/-- Loose files that inflate to their objects are all that there is. -/
theorem intact_looseRepository {objects : List (ObjectId × Repository.Object)}
    {references : List (Bytes × Repository.Reference)} {emptyBlocks : Nat}
    (h : ∀ e ∈ objects, Inflate.Inflates
      (Database.Loose.storedFile emptyBlocks e.2.digested) e.2.digested) :
    (looseRepository emptyBlocks objects references).Intact where
  packs := Repository.truthful_of_packs rfl
  loose id file hfile := by
    have hlookup := Repository.lookup_map objects
      (fun o => Database.Loose.storedFile emptyBlocks o.digested) id
    obtain ⟨o, hobject, rfl⟩ := Option.map_eq_some_iff.mp (hlookup.symm.trans hfile)
    exact ⟨o, hobject, h (id, o) (mem_of_lookup hobject)⟩

/-- With thirteen empty blocks, and without any, the files of the ring are streams. -/
theorem intact_ring {emptyBlocks : Nat} (h : emptyBlocks = 0 ∨ emptyBlocks = 13) :
    (ringRepository emptyBlocks).Intact := by
  have hall : ∀ emptyBlocks ∈ [0, 13], ∀ e ∈ ringObjects,
      Inflate.stream 20 e.2.digested.length (Database.Loose.storedFile emptyBlocks e.2.digested) =
        .ok (⟨e.2.digested.reverse, 0⟩, some { rest := [] }) := by decide +kernel
  apply intact_looseRepository
  intro e he
  exact ⟨20, _, _, hall emptyBlocks (by simpa using h) e he, List.reverse_reverse _⟩

theorem ring_goesBeyond {emptyBlocks n : Nat}
    (h : (ringRepository emptyBlocks).Leads n (repeating 3) id) :
    ¬ (ringRepository emptyBlocks).EndsAt id := by
  have htag : (ringRepository emptyBlocks).object? (repeating 3) =
      some (plainTag (repeating 3) .tag) := by rfl
  generalize hstart : repeating 3 = start at h
  induction h with
  | here id =>
      subst hstart
      simp [Repository.EndsAt, htag, plainTag]
  | tag hobject hrest ih =>
      subst hstart
      cases htag.symm.trans hobject
      exact ih rfl
  | commit hobject hrest ih =>
      subst hstart
      cases htag.symm.trans hobject

theorem ring_shows : (ringRepository 0).ShowsHeader (repeating 3) := by
  right
  intro file hfile
  have hfile' : file = Database.Loose.storedFile 0 (plainTag (repeating 3) .tag).digested :=
    (Option.some.inj hfile).symm
  refine ⟨plainTag (repeating 3) .tag, (plainTag (repeating 3) .tag).digested.take 57, rfl, ?_, ?_⟩
  · rw [hfile']
    decide +kernel
  · decide +kernel

/-- The tag of the commit leads to the tree; the tag of itself is left where it is, and neither
sizing it nor scanning it succeeds. -/
theorem peel_follows_chain_ring :
    (ringRepository 0).Intact ∧
    ((ringRepository 0).peel (repeating 1) = .zero ∧ (ringRepository 0).peel .zero = .zero) ∧
    AnsweredAlone Access.store (.openDatabase (ringRepository 0)) (repeating 3)
      (.error (.unsizedKind (repeating 3) "tag")) ∧
    (∃ enough o, (∀ rounds, enough ≤ rounds → run rounds (hostOf (ringRepository 0)) {}
        (plainCall [(repeating 3).hex]) = some o) ∧ o.exitCode = 1 ∧ o.output = "") ∧
    ∃ enough o, (∀ rounds, enough ≤ rounds → run rounds (hostOf (ringRepository 0)) {}
        plainScan = some o) ∧ o.exitCode = 1 ∧ o.output = "" := by
  have hintact := intact_ring (.inl rfl)
  have hpeel : (ringRepository 0).peel (repeating 3) = repeating 3 := by rfl
  have hnames : namedReferences (ringRepository 0) = [("refs/tags/ring", repeating 3)] := by rfl
  obtain ⟨hends, -⟩ := peel_follows_chain (ringRepository 0) (repeating 1)
  have hleads : (ringRepository 0).Leads 2 (repeating 1) .zero :=
    .tag rfl (.commit rfl (.here .zero))
  obtain ⟨-, hlong⟩ := peel_follows_chain (ringRepository 0) (repeating 3)
  obtain ⟨-, object, hobject, -, hunsized, hruns⟩ := hlong fun n id _ => ring_goesBeyond
  have htag : (ringRepository 0).object? (repeating 3) = some (plainTag (repeating 3) .tag) := by
    rfl
  rw [hpeel, htag] at hobject
  obtain rfl := Option.some.inj hobject
  obtain ⟨halone, -⟩ :=
    hunsized (hostOf (ringRepository 0)) (plainInvocation []) _ rfl fun _ => hintact
  rw [hpeel] at halone
  have halone := halone nofun fun _ => ring_shows
  -- both calls start from the tag alone
  have hrun (args : List String) (task : Task)
      (hread : Invocation.read {} args = .ok { plainInvocation [] with task })
      (hstarts : ∀ id, task.StartsAt (ringRepository 0) id ↔ id = repeating 3) :
      ∃ enough o, (∀ rounds, enough ≤ rounds →
          run rounds (hostOf (ringRepository 0)) {} args = some o) ∧
        o.exitCode = 1 ∧ o.output = "" := by
    obtain ⟨hfails, hends⟩ := hruns (hostOf (ringRepository 0)) {} args _ rfl hread
      (fun _ => hintact) ((hstarts _).mpr rfl)
    obtain ⟨enough, o, hrun⟩ := hends fun access id hstore hstart => by
      obtain rfl := Except.ok.inj hstore
      rw [(hstarts id).mp hstart, hpeel]
      exact ⟨_, halone⟩
    exact ⟨enough, o, hrun, hfails enough o (hrun enough (Nat.le_refl enough))⟩
  refine ⟨hintact, hends 2 .zero (by decide) hleads (.inr (.inl ⟨[], rfl⟩)), halone, ?_, ?_⟩
  · apply hrun _ (.size [(repeating 3).hex] .text) rfl
    intro id
    constructor
    · intro hstart
      cases hstart with
      | size hspec hresolve =>
          rw [List.mem_singleton.mp hspec, resolve?_hex] at hresolve
          exact (Option.some.inj hresolve).symm
    · intro hid
      rw [hid]
      exact .size (List.mem_singleton_self _) (resolve?_hex _ _)
  · apply hrun _ (.scan [] .text) rfl
    intro id
    constructor
    · intro hstart
      cases hstart with
      | scan hname hselects =>
          rw [hnames] at hname
          exact (Prod.mk.inj (List.mem_singleton.mp hname)).2
    · intro hid
      rw [hid]
      exact .scan (hnames ▸ List.mem_singleton_self _) rfl

/-- Behind empty blocks the tag of itself is taken for a corrupt file. -/
theorem long_chain_behind_empty_blocks :
    ∃ r id, r.Intact ∧ (∀ n id', r.Leads n id id' → ¬ r.EndsAt id') ∧ r.peel id = id ∧
      (∃ t, r.object? id = some (.tag t)) ∧
      AnsweredAlone Access.store (.openDatabase r) id (.error (.protocol (.corruptLooseHeader id))) ∧
      ¬ AnsweredAlone Access.store (.openDatabase r) id (.error (.unsizedKind id "tag")) := by
  refine ⟨ringRepository 13, repeating 3, intact_ring (.inr rfl), fun n id' => ring_goesBeyond,
    rfl, ⟨_, rfl⟩, ?_⟩
  have hheader : (Access.store.readHeader (repeating 3) (.openDatabase (ringRepository 13))).1 =
      .error (.protocol (.corruptLooseHeader (repeating 3))) := by decide +kernel
  have halone := answeredAlone_of_fault hheader
  refine ⟨halone, fun hunsized => ?_⟩
  cases hunsized.unique halone

end GitCensus.CommandLine
