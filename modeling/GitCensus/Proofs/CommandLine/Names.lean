import GitCensus.Proofs.CommandLine.Peel
import GitCensus.Proofs.Text.Utf8
/-!
# References by decoded name

References have names of bytes, and a scan knows them by the texts of these names.  Of the
references whose names have the same text it keeps the last one alone.  Names that are the UTF-8
bytes of texts have texts of their own, so no reference with such a name is lost.
-/

namespace GitCensus.CommandLine

open ObjectId (repeating)
open Repository (Access)

variable {host : Host} {env : Environment} {args : List String} {i : Invocation} {r : Repository}
  {format : Report.Format} {access : Access} {name : Bytes} {id : ObjectId}

/-! ## Values by text -/

section Association

variable {α : Type} {entries : List (String × α)} {text : String} {value : α}

theorem associate_concat (entries : List (String × α)) (e : String × α) :
    associate (entries ++ [e]) = (associate entries).filter (fun k => k.1 ≠ e.1) ++ [e] := by
  rw [associate, List.foldl_append]
  rfl

/-- A value stays with its text unless a later one is given for the same text. -/
theorem mem_associate_iff : (text, value) ∈ associate entries ↔
    ∃ before after, entries = before ++ (text, value) :: after ∧ ∀ e ∈ after, e.1 ≠ text := by
  induction entries using List.reverseRecOn with
  | nil => simp [associate]
  | append_singleton entries e ih =>
      rw [associate_concat, List.mem_append, List.mem_singleton, List.mem_filter, ih]
      constructor
      · intro h
        cases h with
        | inl hkept =>
            obtain ⟨⟨before, after, rfl, hlater⟩, hne⟩ := hkept
            have hne : text ≠ e.1 := by simpa using hne
            exact ⟨before, after ++ [e], by simp,
              List.forall_mem_append.mpr ⟨hlater, List.forall_mem_singleton.mpr hne.symm⟩⟩
        | inr hlast => exact ⟨entries, [], by rw [hlast], by simp⟩
      · intro h
        obtain ⟨before, after, hsplit, hlater⟩ := h
        cases after using List.reverseRecOn with
        | nil =>
            obtain ⟨-, heq⟩ := List.append_inj' hsplit rfl
            exact .inr (List.singleton_inj.mp heq).symm
        | append_singleton after e' =>
            rw [← List.cons_append, ← List.append_assoc] at hsplit
            obtain ⟨rfl, heq⟩ := List.append_inj' hsplit rfl
            obtain rfl := List.singleton_inj.mp heq
            obtain ⟨hlater, hlast⟩ := List.forall_mem_append.mp hlater
            have hne := hlast e (List.mem_singleton_self e)
            exact .inl ⟨⟨before, after, rfl, hlater⟩, by simpa using fun heq => hne heq.symm⟩

end Association

/-! ## References -/

/-- The references that a scan starts from, with the objects they stand for. -/
def listed (r : Repository) : List (Bytes × ObjectId) := r.resolved.filter fun e => e.1 ≠ headName

/-- A reference is the last one whose name has its text. -/
def LastOfText (r : Repository) (name : Bytes) (id : ObjectId) : Prop :=
  ∃ before after, listed r = before ++ (name, id) :: after ∧
    ∀ e ∈ after, Text.utf8 e.1 ≠ Text.utf8 name

theorem mem_namedReferences_iff {text : String} : (text, id) ∈ namedReferences r ↔
    ∃ name, LastOfText r name id ∧ Text.utf8 name = text := by
  have hmap : namedReferences r = associate ((listed r).map fun e => (Text.utf8 e.1, e.2)) :=
    rfl
  rw [hmap, mem_associate_iff]
  constructor
  · intro h
    obtain ⟨before, after, hsplit, hlater⟩ := h
    obtain ⟨before, rest, hlisted, rfl, hrest⟩ := List.map_eq_append_iff.mp hsplit
    obtain ⟨⟨name, id'⟩, after, rfl, hname, rfl⟩ := List.map_eq_cons_iff.mp hrest
    obtain ⟨rfl, rfl⟩ := Prod.mk.inj hname
    exact ⟨name, ⟨before, after, hlisted, fun e he => hlater _ (List.mem_map_of_mem he)⟩, rfl⟩
  · intro h
    obtain ⟨name, ⟨before, after, hsplit, hlater⟩, rfl⟩ := h
    refine ⟨_, _, by rw [hsplit, List.map_append, List.map_cons], ?_⟩
    exact List.forall_mem_map.mpr hlater

/-- A scan without rules sizes what the last references of their texts lead to, and nothing
else. -/
theorem mem_scanned_all_iff {text : String} : (text, id) ∈ scanned r [] ↔
    ∃ name start, LastOfText r name start ∧ Text.utf8 name = text ∧ r.peel start = id := by
  have hall (text : String) : Selection.selects [] text = true := rfl
  rw [mem_scanned_iff]
  constructor
  · intro h
    obtain ⟨start, hnamed, -, hpeel⟩ := h
    obtain ⟨name, hlast, hname⟩ := mem_namedReferences_iff.mp hnamed
    exact ⟨name, start, hlast, hname, hpeel⟩
  · intro h
    obtain ⟨name, start, hlast, hname, hpeel⟩ := h
    exact ⟨start, mem_namedReferences_iff.mpr ⟨name, hlast, hname⟩, hall text, hpeel⟩

theorem names_listed_sublist (r : Repository) :
    ((listed r).map Prod.fst).Sublist (r.references.map Prod.fst) := by
  have hresolved (references : List (Bytes × Repository.Reference)) :
      ((references.filterMap fun e => (r.reference? e.1).map fun id => (e.1, id)).map
        Prod.fst).Sublist (references.map Prod.fst) := by
    induction references with
    | nil => exact .slnil
    | cons e references ih =>
        obtain ⟨name, target⟩ := e
        cases htarget : r.reference? name with
        | none =>
            rw [List.filterMap_cons_none (by simp [htarget])]
            exact ih.cons name
        | some id =>
            rw [List.filterMap_cons_some (by simp [htarget]; rfl)]
            exact ih.cons_cons name
  exact (List.filter_sublist.map Prod.fst).trans (hresolved r.references)

/-- No reference is lost whose name is that of a text. -/
theorem lastOfText_of_texts (hnames : (r.references.map Prod.fst).Nodup)
    (htexts : ∀ e ∈ r.references, ∃ text, e.1 = Bytes.ofText text)
    (hlisted : (name, id) ∈ listed r) : LastOfText r name id := by
  have hsublist := names_listed_sublist r
  have hdistinct := hsublist.nodup hnames
  have htext : ∀ e ∈ listed r, ∃ text, e.1 = Bytes.ofText text := by
    intro e he
    obtain ⟨e', he', heq⟩ := List.mem_map.mp (hsublist.subset (List.mem_map_of_mem he))
    rw [← heq]
    exact htexts e' he'
  obtain ⟨before, after, hsplit⟩ := List.append_of_mem hlisted
  refine ⟨before, after, hsplit, ?_⟩
  intro e he hsame
  have hlater : e ∈ listed r := by simp [hsplit, he]
  obtain ⟨text, htext'⟩ := htext e hlater
  obtain ⟨text', hname⟩ := htext _ hlisted
  change name = _ at hname
  -- texts are decoded as themselves, so the two names are one
  rw [htext', hname, Text.utf8_ofText, Text.utf8_ofText] at hsame
  rw [hsame, ← hname] at htext'
  rw [hsplit, List.map_append, List.map_cons, List.nodup_append] at hdistinct
  have hfirst := (List.nodup_cons.mp hdistinct.2.1).1
  apply hfirst
  change name ∈ _
  rw [← htext']
  exact List.mem_map_of_mem he

/-! ## Runs -/

/-- A scan ends and succeeds if each object has a size that its references lead to. -/
theorem exists_successful_run {rules : List Selection.Rule} (hextra : host.hasExtra = true)
    (hopen : openRepository host i = .ok r) (hstore : openStore host i r = .ok access)
    (hread : Invocation.read env args = .ok { i with task := .scan rules format })
    (hsized : ∀ t ∈ scanned r rules, ∃ size, AnsweredAlone Access.store access t.2 (.ok size)) :
    ∃ rounds o, run rounds host env args = some o ∧ o.exitCode = 0 := by
  have halone : ∀ t ∈ scanned r rules, ∃ answer, AnsweredAlone Access.store access t.2 answer := by
    intro t ht
    obtain ⟨size, hsize⟩ := hsized t ht
    exact ⟨.ok size, hsize⟩
  obtain ⟨enough, o, hrun⟩ := exists_run_of_scan hextra hopen hstore hread halone
  have hlast := hrun enough (Nat.le_refl enough)
  obtain ⟨result, progress, hgathered, rfl⟩ := gathered_of_run hextra hopen hstore hread hlast
  cases result with
  | ok ms => exact ⟨enough, _, hlast, rfl⟩
  | error fault =>
      obtain ⟨before, t, after, hsplit, -, hfault⟩ := hgathered.first_fault
      obtain ⟨size, hsize⟩ := hsized t (by simp [hsplit])
      cases hfault.unique hsize

/-- A scan without rules that succeeds has sized what each last reference of its text leads to,
and reports for each statistic at least the value of each tree among these.  This is each
reference but the one to what is checked out, if the names are those of texts. -/
theorem scan_covers_last_of_each_text {o : Outcome} {rounds : Nat} (hextra : host.hasExtra = true)
    (hopen : openRepository host i = .ok r) (hstore : openStore host i r = .ok access)
    (hread : Invocation.read env args = .ok { i with task := .scan [] format })
    (hrun : run rounds host env args = some o) (hcode : o.exitCode = 0) :
    (∃ ms, Report.States format ms o.output ∧ ∀ name id, LastOfText r name id →
      ∃ size, AnsweredAlone Access.store access (r.peel id) (.ok size) ∧
        ∀ tree, size = .tree tree → List.Forall₂ (fun field m =>
          m.statistic = field.1 ∧ field.2 tree ≤ m.value) TreeSize.fields ms) ∧
    ((r.references.map Prod.fst).Nodup → (∀ e ∈ r.references, ∃ text, e.1 = Bytes.ofText text) →
      ∀ name id, (name, id) ∈ r.resolved → name ≠ headName → LastOfText r name id) := by
  constructor
  · obtain ⟨result, progress, hgathered, rfl⟩ := gathered_of_run hextra hopen hstore hread hrun
    cases result with
    | error fault =>
        have hfails := (reports_outcome i.verbose (.sizing fault) progress).exitCode
        cases hfails.symm.trans hcode
    | ok ms =>
        refine ⟨ms, Report.states_maxima format ms, ?_⟩
        intro name id hlast
        have hscanned : (Text.utf8 name, r.peel id) ∈ scanned r [] :=
          mem_scanned_all_iff.mpr ⟨name, id, hlast, rfl, rfl⟩
        obtain ⟨size, halone⟩ := hgathered.sized_alone _ hscanned
        refine ⟨size, halone, ?_⟩
        rintro tree rfl
        have hamong : TreeAmong Access.store access (scanned r []) (Text.utf8 name) tree :=
          ⟨_, hscanned, halone⟩
        have hof := hgathered.maxima_of .none (pairwise_le_scanned r []) (by simp)
        have hne : ms ≠ [] := fun hnil => hof.empty_iff.mp hnil _ _ (.inr hamong)
        exact (hof.maxima hne).imp fun field m hm =>
          ⟨hm.statistic, hm.largest _ _ (.inr hamong)⟩
  · intro hnames htexts name id hresolved hne
    apply lastOfText_of_texts hnames htexts
    exact List.mem_filter.mpr ⟨hresolved, by simpa using hne⟩

/-- References of two names, the first to the tree with a link and the second to the other. -/
def twoTreesRepository (first second : Bytes) : Repository := looseRepository 0 sharedObjects
  [(first, .direct (repeating 2)), (second, .direct (repeating 1))]

theorem openDatabase_twoTrees (first second : Bytes) :
    Access.openDatabase (twoTreesRepository first second) =
      .openDatabase (twoTreesRepository [] []) := rfl

theorem first_alone (first second : Bytes) :
    AnsweredAlone Access.store (.openDatabase (twoTreesRepository first second)) (repeating 1)
      (.ok (.tree firstSize)) := by
  rw [openDatabase_twoTrees]
  exact answeredAlone_of_toOption 4 (by decide +kernel)

theorem second_alone (first second : Bytes) :
    AnsweredAlone Access.store (.openDatabase (twoTreesRepository first second)) (repeating 2)
      (.ok (.tree secondSize)) := by
  rw [openDatabase_twoTrees]
  exact answeredAlone_of_toOption 4 (by decide +kernel)

def branchName (ending : Bytes) : Bytes := Bytes.ofAscii "refs/heads/" ++ ending

/-- Both names are texts, so both trees are sized. -/
theorem scan_covers_last_of_each_text_accented :
    let r := twoTreesRepository (branchName [0xc3, 0xa9]) (branchName [0xc3, 0xaa])
    r.references.map Prod.fst = [Bytes.ofText "refs/heads/é", Bytes.ofText "refs/heads/ê"] ∧
      ∃ rounds o ms, run rounds (hostOf r) {} plainScan = some o ∧ o.exitCode = 0 ∧
        Report.States .text ms o.output ∧
        List.Forall₂ (fun field m => m.statistic = field.1 ∧ field.2 firstSize ≤ m.value)
          TreeSize.fields ms ∧
        List.Forall₂ (fun field m => m.statistic = field.1 ∧ field.2 secondSize ≤ m.value)
          TreeSize.fields ms := by
  intro r
  have hnames : r.references.map Prod.fst =
      [Bytes.ofText "refs/heads/é", Bytes.ofText "refs/heads/ê"] := by
    rw [Bytes.ofText_eq, Bytes.ofText_eq]
    decide +kernel
  have hscanned : scanned r [] = [("refs/heads/é", repeating 2), ("refs/heads/ê", repeating 1)] :=
    scanned_eq (by decide +kernel) (by decide +kernel)
  have hread : Invocation.read {} plainScan =
      .ok { plainInvocation [] with task := .scan [] .text } := by rfl
  have hsized : ∀ t ∈ scanned r [], ∃ size,
      AnsweredAlone Access.store (.openDatabase r) t.2 (.ok size) := by
    rw [hscanned]
    exact List.forall_mem_cons.mpr
      ⟨⟨_, second_alone _ _⟩, List.forall_mem_singleton.mpr ⟨_, first_alone _ _⟩⟩
  have hopen : openRepository (hostOf r) (plainInvocation []) = .ok r := rfl
  obtain ⟨rounds, o, hrun, hcode⟩ := exists_successful_run rfl hopen rfl hread hsized
  obtain ⟨⟨ms, hstates, hcovered⟩, hkept⟩ :=
    scan_covers_last_of_each_text rfl hopen rfl hread hrun hcode
  have htexts : ∀ e ∈ r.references, ∃ text, e.1 = Bytes.ofText text := by
    intro e he
    have hname : e.1 ∈ r.references.map Prod.fst := List.mem_map_of_mem he
    rw [hnames] at hname
    simp only [List.mem_cons, List.not_mem_nil, or_false] at hname
    exact hname.elim (⟨_, ·⟩) (⟨_, ·⟩)
  have hlast (name) (id) (hresolved : (name, id) ∈ r.resolved) (hne : name ≠ headName) :
      LastOfText r name id := hkept (by decide +kernel) htexts name id hresolved hne
  obtain ⟨size, halone, hreported⟩ := hcovered _ _
    (hlast (branchName [0xc3, 0xaa]) (repeating 1) (by decide +kernel) (by decide +kernel))
  obtain rfl := Except.ok.inj (halone.unique (first_alone _ _))
  obtain ⟨size', halone', hreported'⟩ := hcovered _ _
    (hlast (branchName [0xc3, 0xa9]) (repeating 2) (by decide +kernel) (by decide +kernel))
  obtain rfl := Except.ok.inj (halone'.unique (second_alone _ _))
  exact ⟨hnames, rounds, o, ms, hrun, hcode, hstates, hreported _ rfl, hreported' _ rfl⟩

/-- The maxima that come from one of two references whose names are no texts. -/
def lossyMaxima : Report.Maxima :=
  TreeSize.fields.map fun field => ⟨field.1, field.2 firstSize, "refs/heads/\uFFFD"⟩

/-- Of two names that are no texts, the one is lost with the tree it leads to. -/
theorem scan_loses_reference :
    let r := twoTreesRepository (branchName [0x80]) (branchName [0xff])
    (r.references.map Prod.fst).Nodup ∧
      (∃ name, (name, repeating 2) ∈ r.resolved ∧ name ≠ headName) ∧
      r.peel (repeating 2) = repeating 2 ∧
      AnsweredAlone Access.store (.openDatabase r) (repeating 2) (.ok (.tree secondSize)) ∧
      ∃ o, run 9 (hostOf r) {} plainScan = some o ∧ o.exitCode = 0 ∧
        Report.States .text lossyMaxima o.output ∧
        ∃ m ∈ lossyMaxima, m.statistic = "link_count" ∧ m.value < secondSize.linkCount := by
  intro r
  have houtcome : (run 9 (hostOf r) {} plainScan).map (fun o => (o.exitCode, o.output)) =
      some (0, Report.maxima .text lossyMaxima) := by decide +kernel
  obtain ⟨o, hrun, hreport⟩ := Option.map_eq_some_iff.mp houtcome
  obtain ⟨hcode, houtput⟩ := Prod.mk.inj hreport
  have hstates := Report.states_maxima .text lossyMaxima
  rw [← houtput] at hstates
  refine ⟨by decide +kernel, ⟨branchName [0x80], ?_, ?_⟩, by rfl, second_alone _ _, o, hrun, hcode,
    hstates, ?_⟩
  · decide +kernel
  · decide +kernel
  · exact ⟨⟨"link_count", 0, "refs/heads/\uFFFD"⟩, by decide +kernel, rfl, by decide⟩

end GitCensus.CommandLine
