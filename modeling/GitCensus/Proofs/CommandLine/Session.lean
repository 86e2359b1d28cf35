import Mathlib.Data.List.Forall2
import GitCensus.CommandLine.Session
import GitCensus.Proofs.Census.History
/-!
# Objects sized in one session

The objects of a session share one store and one census.  Over a store that does not
change each of them is still answered as if it were alone, so a session ends with all
the answers, in order, or with the first fault among them.
-/

namespace GitCensus.CommandLine

/-! ## Answers in order -/

section Traversals

variable {α β ε : Type} {f : α → Except ε β}

theorem mapM_cons_of_ok {a : α} {l : List α} {b : β} (h : f a = .ok b) :
    (a :: l).mapM f = (l.mapM f).map (b :: ·) := by
  rw [List.mapM_cons, h]
  cases l.mapM f <;> rfl

theorem mapM_cons_of_error {a : α} {l : List α} {e : ε} (h : f a = .error e) :
    (a :: l).mapM f = .error e := by
  rw [List.mapM_cons, h]
  rfl

theorem forall₂_of_mapM {l : List α} {out : List β} (h : l.mapM f = .ok out) :
    List.Forall₂ (fun a b => f a = .ok b) l out := by
  induction l generalizing out with
  | nil =>
      obtain rfl := Except.ok.inj h
      exact .nil
  | cons a l ih =>
      cases ha : f a with
      | error e =>
          rw [mapM_cons_of_error ha] at h
          cases h
      | ok b =>
          rw [mapM_cons_of_ok ha] at h
          cases hl : l.mapM f with
          | error e =>
              rw [hl] at h
              cases h
          | ok bs =>
              rw [hl] at h
              obtain rfl := Except.ok.inj h
              exact .cons ha (ih hl)

/-- A fault is that of the first element that has one. -/
theorem exists_first_of_mapM {l : List α} {e : ε} (h : l.mapM f = .error e) :
    ∃ before a after, l = before ++ a :: after ∧ (∀ b ∈ before, ∃ value, f b = .ok value) ∧
      f a = .error e := by
  induction l with
  | nil => cases h
  | cons a l ih =>
      cases ha : f a with
      | error e' =>
          rw [mapM_cons_of_error ha] at h
          obtain rfl := Except.error.inj h
          exact ⟨[], a, l, rfl, by simp, ha⟩
      | ok b =>
          rw [mapM_cons_of_ok ha] at h
          cases hl : l.mapM f with
          | ok bs =>
              rw [hl] at h
              cases h
          | error e' =>
              rw [hl] at h
              obtain rfl := Except.error.inj h
              obtain ⟨before, x, after, rfl, hbefore, hx⟩ := ih hl
              refine ⟨a :: before, x, after, rfl, ?_, hx⟩
              exact List.forall_mem_cons.mpr ⟨⟨b, ha⟩, hbefore⟩

end Traversals

open Report (Row)
open Census (Consistent)

variable {σ : Type} {S : Source σ} {I : σ → Prop} {s₀ : σ} {id : ObjectId} {rounds : Nat}
  {s s' : Session σ} {c : Census σ} {ts : List (String × ObjectId)}

/-- The row of a named object, given the answers to ids. -/
def rowOf (answer : ObjectId → Except Fault ObjectSize) (t : String × ObjectId) :
    Except Fault Row :=
  (answer t.2).map (⟨t.1, t.2, ·⟩)

/-- Sizing an object ends with an answer, in a census without records. -/
def AnsweredAlone (S : Store σ) (s₀ : σ) (id : ObjectId) (answer : Except Fault ObjectSize) :
    Prop :=
  ∃ rounds c, Census.objectSize S rounds id { store := s₀ } = some (answer, c)

/-- A census is fit for the next object after one that it has sized. -/
theorem consistent_of_sized {T : Store σ} {c' : Census σ} {size : ObjectSize} (hT : T.Steady I)
    (hs₀ : I s₀) (hc : Consistent T s₀ I c) (hpending : c.pending.ids = [])
    (h : c.objectSize T rounds id = some (.ok size, c')) :
    Consistent T s₀ I c' ∧ c'.pending.ids = [] := by
  have hcall : c.perform T rounds (.object id) = some (.ok size, c') := h
  exact ⟨hc.of_objectSize hT hs₀ hpending h, Census.perform_pending hpending hcall⟩

namespace Session

theorem measure_of_objectSize {answer : Except Fault ObjectSize}
    (h : s.census.objectSize S.store rounds id = some (answer, c)) :
    s.measure S rounds id = some (answer, ⟨c, s.lines ++ news S s.census c⟩) := by
  simp [measure, h]

/-! ## Rounds that suffice -/

theorem measure_mono {result : Except Fault ObjectSize × Session σ}
    (h : s.measure S rounds id = some result) (more : Nat) :
    s.measure S (rounds + more) id = some result := by
  obtain ⟨⟨answer, c⟩, hsize, rfl⟩ := Option.map_eq_some_iff.mp h
  exact measure_of_objectSize (Census.objectSize_mono hsize more)

theorem sizeAll_mono {result : Except Fault (List Row) × Session σ}
    (h : sizeAll S rounds ts s = some result) (more : Nat) :
    sizeAll S (rounds + more) ts s = some result := by
  induction ts generalizing s result with
  | nil => exact h
  | cons t ts ih =>
      obtain ⟨name, id⟩ := t
      rw [sizeAll] at h ⊢
      cases hmeasure : measure S rounds id (s.say ("Sizing " ++ name ++ " (" ++ id.hex ++ ")")) with
      | none =>
          rw [hmeasure] at h
          cases h
      | some measured =>
          rw [hmeasure] at h
          rw [measure_mono hmeasure more]
          obtain ⟨fault | size, s₁⟩ := measured
          · exact h
          · obtain ⟨rest, hrest, rfl⟩ := Option.map_eq_some_iff.mp h
            dsimp only
            rw [ih hrest]
            rfl

theorem scanAll_mono {maxima : Report.Maxima} {result : Except Fault Report.Maxima × Session σ}
    (h : scanAll S rounds ts maxima s = some result) (more : Nat) :
    scanAll S (rounds + more) ts maxima s = some result := by
  induction ts generalizing s maxima result with
  | nil => exact h
  | cons t ts ih =>
      obtain ⟨name, id⟩ := t
      rw [scanAll] at h ⊢
      cases hmeasure : measure S rounds id s with
      | none =>
          rw [hmeasure] at h
          cases h
      | some measured =>
          rw [hmeasure] at h
          rw [measure_mono hmeasure more]
          obtain ⟨fault | ⟨size | size⟩, s₁⟩ := measured
          · exact h
          · exact ih h
          · exact ih h

/-! ## One session -/

theorem sizeAll_cons_of_error (name : String) (ts : List (String × ObjectId)) {fault : Fault}
    (h : s.census.objectSize S.store rounds id = some (.error fault, c)) :
    ∃ s', sizeAll S rounds ((name, id) :: ts) s = some (.error fault, s') := by
  rw [sizeAll, measure_of_objectSize (s := s.say _) h]
  exact ⟨_, rfl⟩

theorem sizeAll_cons_of_ok (s : Session σ) (c : Census σ) (name : String) (id : ObjectId)
    (ts : List (String × ObjectId)) : ∃ s₁ : Session σ, s₁.census = c ∧ ∀ {rounds size},
      s.census.objectSize S.store rounds id = some (.ok size, c) →
      sizeAll S rounds ((name, id) :: ts) s =
        (sizeAll S rounds ts s₁).map fun (rows, s) => (rows.map (⟨name, id, size⟩ :: ·), s) := by
  let started := s.say ("Sizing " ++ name ++ " (" ++ id.hex ++ ")")
  refine ⟨⟨c, started.lines ++ news S started.census c⟩, rfl, fun h => ?_⟩
  rw [sizeAll, measure_of_objectSize (s := started) h]

/-- A session with one object ends if sizing the object does. -/
theorem answeredAlone_of_sizeAll {name : String} {rows : Except Fault (List Row)}
    (h : sizeAll S rounds [(name, id)] { census := { store := s₀ } } = some (rows, s')) :
    ∃ answer, AnsweredAlone S.store s₀ id answer := by
  cases hsize : Census.objectSize S.store rounds id { store := s₀ } with
  | none => simp [sizeAll, measure, say, hsize] at h
  | some result => exact ⟨result.1, rounds, result.2, hsize⟩

/-- If each object of a session alone is answered, the session ends with what these
answers give. -/
theorem exists_sizeAll (hS : S.store.Steady I) (hs₀ : I s₀)
    {answer : ObjectId → Except Fault ObjectSize}
    (halone : ∀ t ∈ ts, AnsweredAlone S.store s₀ t.2 (answer t.2))
    (hc : Consistent S.store s₀ I s.census) (hpending : s.census.pending.ids = []) :
    ∃ rounds s', sizeAll S rounds ts s = some (ts.mapM (rowOf answer), s') := by
  induction ts generalizing s with
  | nil => exact ⟨0, s, rfl⟩
  | cons t ts ih =>
      obtain ⟨name, id⟩ := t
      obtain ⟨⟨_, _, hfresh⟩, halone⟩ := List.forall_mem_cons.mp halone
      -- the session has records by now, but the answer is the one without them
      obtain ⟨rounds₁, c₁, hsize⟩ :=
        Census.objectSize_alike hS hs₀ (.fresh hs₀) rfl hc hpending hfresh
      cases hanswer : answer id with
      | error fault =>
          rw [hanswer] at hsize
          obtain ⟨s', hall⟩ := sizeAll_cons_of_error name ts hsize
          have hrow : rowOf answer (name, id) = .error fault := by simp [rowOf, hanswer, Except.map]
          exact ⟨rounds₁, s', by rw [hall, mapM_cons_of_error hrow]⟩
      | ok size =>
          rw [hanswer] at hsize
          have hrow : rowOf answer (name, id) = .ok ⟨name, id, size⟩ := by
            simp [rowOf, hanswer, Except.map]
          obtain ⟨hc₁, hpending₁⟩ := consistent_of_sized hS hs₀ hc hpending hsize
          obtain ⟨s₁, rfl, hall⟩ := sizeAll_cons_of_ok (S := S) s c₁ name id ts
          obtain ⟨rounds₂, s', hrest⟩ := ih halone hc₁ hpending₁
          refine ⟨rounds₁ + rounds₂, s', ?_⟩
          rw [hall (Census.objectSize_mono hsize rounds₂), Nat.add_comm,
            sizeAll_mono hrest rounds₁, mapM_cons_of_ok hrow]
          rfl

end Session

end GitCensus.CommandLine
