import GitCensus.Inflate.Stream
/-!
# Reading from a part of the data

A reader that comes to an end does so without looking at the data behind, so it reads the
same when more data follows.  Only where it reaches the end of the data may more of it make
a difference.
-/

namespace GitCensus.Inflate

def Source.size (s : Source) : Nat := s.buffered.length + 8 * s.rest.length

def Source.extend (s : Source) (more : Bytes) : Source := { s with rest := s.rest ++ more }

@[simp] theorem Source.extend_nil (s : Source) : s.extend [] = s := by
  simp [Source.extend]

namespace Reader

variable {α β : Type} {r : Reader α} {f : α → Reader β} {s s' : Source} {a : α} {b : β}

/-- Reading goes the same with more data behind, unless the data ends before, and never
goes back. -/
structure Local (r : Reader α) : Prop where
  ok : ∀ {s a s'} (more : Bytes), r s = .ok (a, s') → r (s.extend more) = .ok (a, s'.extend more)
  failed : ∀ {s fault} (more : Bytes), r s = .error (.failed fault) →
    r (s.extend more) = .error (.failed fault)
  size_le : ∀ {s a s'}, r s = .ok (a, s') → s'.size ≤ s.size

/-- Besides, reading takes a bit at least. -/
structure Consumes (r : Reader α) : Prop extends Local r where
  size_lt : ∀ {s a s'}, r s = .ok (a, s') → s'.size < s.size

/-! ## Building blocks -/

theorem bind_eq_ok (h : (r >>= f) s = .ok (b, s')) :
    ∃ a s₁, r s = .ok (a, s₁) ∧ f a s₁ = .ok (b, s') := by
  change ((r s).bind fun p => f p.1 p.2) = .ok (b, s') at h
  cases hr : r s with
  | error stop =>
      rw [hr] at h
      cases h
  | ok p =>
      rw [hr] at h
      exact ⟨p.1, p.2, rfl, h⟩

theorem bind_of_ok (h : r s = .ok (a, s')) : (r >>= f) s = f a s' := by
  change ((r s).bind fun p => f p.1 p.2) = f a s'
  rw [h]
  rfl

theorem bind_of_error {stop : Stop} (h : r s = .error stop) : (r >>= f) s = .error stop := by
  change ((r s).bind fun p => f p.1 p.2) = .error stop
  rw [h]
  rfl

theorem local_pure (a : α) : Local (pure a : Reader α) where
  ok more h := by
    obtain ⟨rfl, rfl⟩ := Prod.mk.inj (Except.ok.inj h)
    rfl
  failed more h := by cases h
  size_le h := by
    obtain ⟨-, rfl⟩ := Prod.mk.inj (Except.ok.inj h)
    exact Nat.le_refl _

theorem local_fail (fault : Fault) : Local (fail fault : Reader α) where
  ok more h := by cases h
  failed more h := h
  size_le h := by cases h

theorem Local.bind (hr : r.Local) (hf : ∀ a, (f a).Local) : (r >>= f).Local where
  ok more h := by
    obtain ⟨a, s₁, hfirst, hrest⟩ := bind_eq_ok h
    rw [bind_of_ok (hr.ok more hfirst)]
    exact (hf a).ok more hrest
  failed {s fault} more h := by
    cases hfirst : r s with
    | error stop =>
        rw [bind_of_error hfirst] at h
        obtain rfl := Except.error.inj h
        exact bind_of_error (hr.failed more hfirst)
    | ok p =>
        rw [bind_of_ok hfirst] at h
        rw [bind_of_ok (hr.ok more hfirst)]
        exact (hf p.1).failed more h
  size_le h := by
    obtain ⟨a, s₁, hfirst, hrest⟩ := bind_eq_ok h
    exact Nat.le_trans ((hf a).size_le hrest) (hr.size_le hfirst)

theorem Consumes.bind (hr : r.Consumes) (hf : ∀ a, (f a).Local) : (r >>= f).Consumes where
  toLocal := hr.toLocal.bind hf
  size_lt h := by
    obtain ⟨a, s₁, hfirst, hrest⟩ := bind_eq_ok h
    exact Nat.lt_of_le_of_lt ((hf a).size_le hrest) (hr.size_lt hfirst)

theorem length_bitsOf (b : UInt8) : (bitsOf b).length = 8 := by
  simp [bitsOf]

theorem size_of_bit {x : Bool} (h : bit s = .ok (x, s')) : s'.size + 1 = s.size := by
  obtain ⟨buffered, rest⟩ := s
  unfold bit at h
  cases buffered with
  | cons x buffered =>
      obtain ⟨-, rfl⟩ := Prod.mk.inj (Except.ok.inj h)
      simp only [Source.size, List.length_cons]
      omega
  | nil =>
      cases rest with
      | nil => cases h
      | cons b rest =>
          obtain ⟨-, rfl⟩ := Prod.mk.inj (Except.ok.inj h)
          simp only [Source.size, List.length_drop, length_bitsOf, List.length_cons,
            List.length_nil]
          omega

theorem consumes_bit : bit.Consumes where
  ok {s x s'} more h := by
    obtain ⟨buffered, rest⟩ := s
    unfold bit at h ⊢
    cases buffered with
    | cons x buffered =>
        obtain ⟨rfl, rfl⟩ := Prod.mk.inj (Except.ok.inj h)
        rfl
    | nil =>
        cases rest with
        | nil => cases h
        | cons b rest =>
            obtain ⟨rfl, rfl⟩ := Prod.mk.inj (Except.ok.inj h)
            rfl
  failed {s fault} more h := by
    obtain ⟨buffered, rest⟩ := s
    unfold bit at h
    cases buffered with
    | cons x buffered => cases h
    | nil => cases rest <;> cases h
  size_le h := Nat.le_of_lt (Nat.lt_of_succ_le (Nat.le_of_eq (size_of_bit h)))
  size_lt h := Nat.lt_of_succ_le (Nat.le_of_eq (size_of_bit h))

theorem local_bit : bit.Local := consumes_bit.toLocal

theorem local_bits (n : Nat) : (bits n).Local := by
  induction n with
  | zero => exact local_pure 0
  | succ n ih => exact local_bit.bind fun low => ih.bind fun high => local_pure _

theorem local_align : align.Local where
  ok more h := by
    obtain ⟨rfl, rfl⟩ := Prod.mk.inj (Except.ok.inj h)
    rfl
  failed more h := by cases h
  size_le h := by
    obtain ⟨-, rfl⟩ := Prod.mk.inj (Except.ok.inj h)
    simp only [Source.size, List.length_nil]
    omega

end Reader

open Reader

/-! ## Codes -/

namespace Code

theorem local_readFrom (c : Code) (more length value : Nat) :
    (c.readFrom more length value).Local := by
  induction more generalizing length value with
  | zero => exact local_pure none
  | succ more ih =>
      refine local_bit.bind fun low => ?_
      dsimp only
      split
      · exact local_pure _
      · exact ih _ _

theorem consumes_read (c : Code) : c.read.Consumes := by
  obtain ⟨more, hmore⟩ : ∃ more, max c.longest 1 = more + 1 := ⟨max c.longest 1 - 1, by omega⟩
  unfold read
  rw [hmore]
  refine consumes_bit.bind fun low => ?_
  dsimp only
  split
  · exact local_pure _
  · exact c.local_readFrom _ _ _

theorem local_read (c : Code) : c.read.Local := c.consumes_read.toLocal

end Code

/-! ## Blocks -/

theorem local_readValue (bases : List (Nat × Nat)) (symbol : Option Nat) (fault : Fault) :
    (readValue bases symbol fault).Local := by
  unfold readValue
  split
  · exact local_fail fault
  · exact (local_bits _).bind fun rest => local_pure _

theorem consumes_readSymbol (codes : Codes) : (readSymbol codes).Consumes := by
  refine codes.literals.consumes_read.bind fun word => ?_
  split
  · exact local_fail _
  · split
    · exact local_pure _
    · split
      · exact local_pure _
      · refine (local_readValue _ _ _).bind fun length => ?_
        refine codes.distances.local_read.bind fun symbol => ?_
        exact (local_readValue _ _ _).bind fun distance => local_pure _

theorem local_readShortLengths (n : Nat) : (readShortLengths n).Local := by
  induction n with
  | zero => exact local_pure []
  | succ n ih => exact (local_bits 3).bind fun first => ih.bind fun rest => local_pure _

theorem local_readLengths (code : Code) (wanted steps : Nat) (done : List Nat) :
    (readLengths code wanted steps done).Local := by
  induction steps generalizing done with
  | zero => exact local_pure _
  | succ steps ih =>
      have hagain : ∀ value base more, Local (Reader.bits more >>= fun count =>
          if wanted < done.length + base + count then Reader.fail .bitLengthRepeat
          else readLengths code wanted steps (List.replicate (base + count) value ++ done)) := by
        intro value base more
        refine (local_bits more).bind fun count => ?_
        split
        · exact local_fail _
        · exact ih _
      unfold readLengths
      split
      · exact local_pure _
      · refine code.local_read.bind fun word => ?_
        split
        · split
          · exact (local_bits 2).bind fun _ => local_fail _
          · exact hagain _ 3 2
        · exact hagain 0 3 3
        · exact hagain 0 11 7
        · exact ih _

theorem local_readCodes : readCodes.Local := by
  refine (local_bits 5).bind fun literals => (local_bits 5).bind fun distances => ?_
  refine (local_bits 4).bind fun shorts => ?_
  dsimp only
  split
  · exact local_fail _
  · refine (local_readShortLengths _).bind fun short => ?_
    split
    · exact local_fail _
    · refine (local_readLengths _ _ _ _).bind fun lengths => ?_
      split
      · exact local_fail _
      · split
        · exact local_fail _
        · split
          · exact local_fail _
          · exact local_pure _

theorem local_readStoredLength : readStoredLength.Local := by
  refine local_align.bind fun _ => (local_bits 16).bind fun length => ?_
  refine (local_bits 16).bind fun inverted => ?_
  split
  · exact local_pure _
  · exact local_fail _

theorem consumes_readBlockHeader : readBlockHeader.Consumes :=
  consumes_bit.bind fun _ => (local_bits 2).bind fun _ => local_pure _

theorem local_readChecksum (out : Output) : (readChecksum out).Local := by
  refine local_align.bind fun _ => (local_bits 8).bind fun a => (local_bits 8).bind fun b => ?_
  refine (local_bits 8).bind fun c => (local_bits 8).bind fun d => ?_
  split
  · exact local_pure _
  · exact local_fail _

theorem local_readStreamHeader : readStreamHeader.Local := by
  refine (local_bits 8).bind fun first => (local_bits 8).bind fun second => ?_
  split
  · exact local_fail _
  · split
    · exact local_fail _
    · split
      · exact local_fail _
      · split
        · exact (local_bits 32).bind fun _ => local_fail _
        · exact local_pure _

end GitCensus.Inflate
