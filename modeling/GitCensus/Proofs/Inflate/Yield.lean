import GitCensus.Proofs.Inflate.Prefix
/-!
# How much a part of a stream yields

Stored blocks and blocks in the fixed code bring no codes of their own, so their output comes
at a bounded cost in bits.  A stream that opens with such a block shows a known number of
bytes from its beginning alone.
-/

namespace GitCensus.Inflate

/-- What is buffered is the rest of one byte. -/
def Source.Valid (s : Source) : Prop := s.buffered.length < 8

namespace Reader

variable {α β : Type} {r : Reader α} {f : α → Reader β} {m n k : Nat}

/-- Reading takes at most `n` bits, and does not come to the end of the data while there are
as many. -/
structure Within (n : Nat) (r : Reader α) : Prop where
  ok : ∀ {s a s'}, s.Valid → r s = .ok (a, s') → s'.Valid ∧ s.size ≤ s'.size + n
  ended : ∀ {s}, s.Valid → r s = .error .ended → s.size < n

theorem within_pure (n : Nat) (a : α) : Within n (pure a : Reader α) where
  ok hs h := by
    obtain ⟨-, rfl⟩ := Prod.mk.inj (Except.ok.inj h)
    exact ⟨hs, Nat.le_add_right _ _⟩
  ended hs h := by cases h

theorem within_fail (n : Nat) (fault : Fault) : Within n (fail fault : Reader α) where
  ok hs h := by cases h
  ended hs h := by cases h

theorem Within.bind (hr : r.Within m) (hf : ∀ a, (f a).Within n) (hsum : m + n ≤ k) :
    (r >>= f).Within k where
  ok hs h := by
    obtain ⟨a, s₁, hfirst, hrest⟩ := bind_eq_ok h
    obtain ⟨hvalid, hsize⟩ := hr.ok hs hfirst
    obtain ⟨hvalid', hsize'⟩ := (hf a).ok hvalid hrest
    exact ⟨hvalid', by omega⟩
  ended {s} hs h := by
    cases hfirst : r s with
    | error stop =>
        rw [bind_of_error hfirst] at h
        obtain rfl := Except.error.inj h
        have hlt := hr.ended hs hfirst
        omega
    | ok p =>
        rw [bind_of_ok hfirst] at h
        obtain ⟨hvalid, hsize⟩ := hr.ok hs hfirst
        have hlt := (hf p.1).ended hvalid h
        omega

theorem within_bit : bit.Within 1 where
  ok {s x s'} hs h := by
    refine ⟨?_, Nat.le_of_eq (size_of_bit h).symm⟩
    obtain ⟨buffered, rest⟩ := s
    unfold bit at h
    unfold Source.Valid at hs ⊢
    cases buffered with
    | cons x buffered =>
        obtain ⟨-, rfl⟩ := Prod.mk.inj (Except.ok.inj h)
        exact Nat.lt_of_succ_lt hs
    | nil =>
        cases rest with
        | nil => cases h
        | cons b rest =>
            obtain ⟨-, rfl⟩ := Prod.mk.inj (Except.ok.inj h)
            simp [length_bitsOf]
  ended {s} _ h := by
    obtain ⟨buffered, rest⟩ := s
    unfold bit at h
    cases buffered with
    | cons x buffered => cases h
    | nil =>
        cases rest with
        | nil => exact Nat.one_pos
        | cons b rest => cases h

theorem within_bits (n : Nat) : (bits n).Within n := by
  induction n with
  | zero => exact within_pure 0 0
  | succ n ih =>
      apply within_bit.bind (fun low => ih.bind (fun high => within_pure 0 _) (Nat.le_refl n))
      omega

theorem within_align : align.Within 7 where
  ok {s a s'} hs h := by
    obtain ⟨-, rfl⟩ := Prod.mk.inj (Except.ok.inj h)
    unfold Source.Valid at hs ⊢
    simp only [Source.size, List.length_nil]
    omega
  ended _ h := by cases h

/-- What is read from all of the data is read from a part of it that has bits enough. -/
theorem Within.read_part (h : r.Within n) (hlocal : r.Local) {s s' : Source} {more : Bytes} {a : α}
    (hs : s.Valid) (hsize : n ≤ s.size) (hfull : r (s.extend more) = .ok (a, s')) :
    ∃ s₁, r s = .ok (a, s₁) ∧ s₁.extend more = s' := by
  cases hr : r s with
  | error stop =>
      cases stop with
      | ended => exact absurd (h.ended hs hr) (Nat.not_lt.mpr hsize)
      | failed fault =>
          rw [hlocal.failed more hr] at hfull
          cases hfull
  | ok p =>
      obtain ⟨a', s₁⟩ := p
      rw [hlocal.ok more hr] at hfull
      obtain ⟨rfl, rfl⟩ := Prod.mk.inj (Except.ok.inj hfull)
      exact ⟨s₁, rfl, rfl⟩

end Reader

open Reader

variable {out o : Output} {s s' : Source} {m n : Nat} {codes : Codes}

/-! ## Symbols of the fixed code -/

theorem Code.within_readFrom (c : Code) (more length value : Nat) :
    (c.readFrom more length value).Within more := by
  induction more generalizing length value with
  | zero => exact within_pure 0 none
  | succ more ih =>
      refine within_bit.bind (fun low => ?_) (Nat.le_of_eq (Nat.add_comm 1 more))
      dsimp only
      split
      · exact within_pure more _
      · exact ih _ _

theorem Code.within_read (c : Code) : c.read.Within (max c.longest 1) :=
  c.within_readFrom _ 0 0

theorem within_readValue {bases : List (Nat × Nat)} (hbases : ∀ p ∈ bases, p.2 ≤ n)
    (symbol : Option Nat) (fault : Fault) : (readValue bases symbol fault).Within n := by
  unfold readValue
  split
  · exact within_fail n fault
  · rename_i base more hfound
    obtain ⟨i, -, hbase⟩ := Option.bind_eq_some_iff.mp hfound
    exact (within_bits more).bind (fun rest => within_pure 0 _)
      (hbases _ (List.mem_of_getElem? hbase))

theorem le_of_readValue {bases : List (Nat × Nat)} (hbases : ∀ p ∈ bases, m ≤ p.1)
    {symbol : Option Nat} {fault : Fault} {value : Nat}
    (h : readValue bases symbol fault s = .ok (value, s')) : m ≤ value := by
  unfold readValue at h
  cases hfound : symbol.bind fun i => bases[i]? with
  | none =>
      rw [hfound] at h
      cases h
  | some p =>
      obtain ⟨i, -, hbase⟩ := Option.bind_eq_some_iff.mp hfound
      rw [hfound] at h
      obtain ⟨rest, s₁, -, hvalue⟩ := bind_eq_ok h
      obtain ⟨rfl, -⟩ := Prod.mk.inj (Except.ok.inj hvalue)
      exact Nat.le_trans (hbases p (List.mem_of_getElem? hbase)) (Nat.le_add_right _ _)

theorem within_literals : fixedCodes.literals.read.Within 9 := fixedCodes.literals.within_read

theorem within_readSymbol : (readSymbol fixedCodes).Within 32 := by
  have hlengths : ∀ p ∈ lengthBases, p.2 ≤ 5 := by decide
  have hbases : ∀ p ∈ distanceBases, p.2 ≤ 13 := by decide
  have hdistances : fixedCodes.distances.read.Within 5 := fixedCodes.distances.within_read
  refine within_literals.bind (fun word => ?_) (show 9 + 23 ≤ 32 by decide)
  split
  · exact within_fail _ _
  · split
    · exact within_pure _ _
    · split
      · exact within_pure _ _
      · refine (within_readValue hlengths _ _).bind (fun length => ?_) (show 5 + 18 ≤ 23 by decide)
        refine hdistances.bind (fun symbol => ?_) (show 5 + 13 ≤ 18 by decide)
        exact (within_readValue hbases _ _).bind (fun distance => within_pure 0 _) (Nat.le_refl 13)

/-- What a symbol that has been read tells about how it was read. -/
theorem readSymbol_cases {symbol : Symbol} (h : readSymbol codes s = .ok (symbol, s')) :
    match symbol with
    | .endOfBlock => True
    | .literal _ => ∃ word, codes.literals.read s = .ok (word, s')
    | .copy length _ => 3 ≤ length := by
  obtain ⟨word, s₁, hword, h⟩ := bind_eq_ok h
  split at h
  · cases h
  · split at h
    · obtain ⟨rfl, rfl⟩ := Prod.mk.inj (Except.ok.inj h)
      exact ⟨_, hword⟩
    · split at h
      · obtain ⟨rfl, -⟩ := Prod.mk.inj (Except.ok.inj h)
        trivial
      · obtain ⟨length, s₂, hlength, h⟩ := bind_eq_ok h
        obtain ⟨symbol, s₃, -, h⟩ := bind_eq_ok h
        obtain ⟨distance, s₄, -, h⟩ := bind_eq_ok h
        obtain ⟨rfl, -⟩ := Prod.mk.inj (Except.ok.inj h)
        exact le_of_readValue (by decide) hlength

/-! ## Blocks -/

/-- Each byte costs at most 32 thirds of a bit: a literal nine bits, a copy of three bytes or
more 32.  What is left where the data ends is less than a symbol. -/
theorem symbols_yield {steps : Nat} (hs : s.Valid) (hsteps : s.size < steps)
    (h : symbols fixedCodes steps out s = .ok (o, none)) :
    o.space = 0 ∨ 3 * s.size + 32 * out.bytes.length < 32 * o.bytes.length + 96 := by
  induction steps generalizing out s with
  | zero => omega
  | succ steps ih =>
      unfold symbols proceed at h
      split at h
      · rename_i hread
        obtain ⟨rfl, -⟩ := Prod.mk.inj (Except.ok.inj h)
        have hlt := within_readSymbol.ended hs hread
        exact .inr (by omega)
      · cases h
      · rename_i symbol s₁ hread
        obtain ⟨hvalid, hcost⟩ := within_readSymbol.ok hs hread
        have hsize : s₁.size < steps := by
          have hlt := (consumes_readSymbol fixedCodes).size_lt hread
          omega
        have hcases := readSymbol_cases hread
        cases symbol with
        | endOfBlock => cases h
        | literal b =>
            obtain ⟨word, hword⟩ := hcases
            have hcost := (within_literals.ok hs hword).2
            dsimp only at h
            split at h
            · obtain ⟨rfl, -⟩ := Prod.mk.inj (Except.ok.inj h)
              exact .inl ‹_›
            · apply (ih hvalid hsize h).imp_right
              intro hyield
              rw [List.length_cons] at hyield
              omega
        | copy length distance =>
            dsimp only at h hcases
            split at h
            · obtain ⟨rfl, -⟩ := Prod.mk.inj (Except.ok.inj h)
              exact .inl ‹_›
            · split at h
              · cases h
              · split at h
                · obtain ⟨rfl, -⟩ := Prod.mk.inj (Except.ok.inj h)
                  rw [out.space_copy]
                  exact .inl (by omega)
                · apply (ih hvalid hsize h).imp_right
                  intro hyield
                  rw [out.length_bytes_copy] at hyield
                  omega

theorem within_readStoredLength : readStoredLength.Within 39 := by
  refine within_align.bind (fun _ => ?_) (show 7 + 32 ≤ 39 by decide)
  refine (within_bits 16).bind (fun length => ?_) (show 16 + 16 ≤ 32 by decide)
  refine (within_bits 16).bind (fun inverted => ?_) (show 16 + 0 ≤ 16 by decide)
  split
  · exact within_pure 0 _
  · exact within_fail 0 _

theorem stored_yield (hs : s.Valid) (h : stored out s = .ok (o, none)) :
    o.space = 0 ∨ s.size + 8 * out.bytes.length ≤ 8 * o.bytes.length + 46 := by
  unfold stored proceed at h
  split at h
  · rename_i hread
    obtain ⟨rfl, -⟩ := Prod.mk.inj (Except.ok.inj h)
    have hlt := within_readStoredLength.ended hs hread
    exact .inr (by omega)
  · cases h
  · rename_i length s₁ hread
    obtain ⟨hvalid, hcost⟩ := within_readStoredLength.ok hs hread
    simp only [Reader.bytes, Output.append, Bool.and_eq_true, decide_eq_true_eq,
      List.length_take] at h
    obtain ⟨rfl, hleft⟩ := Prod.mk.inj (Except.ok.inj h)
    split at hleft
    · cases hleft
    · rename_i hcut
      unfold Source.Valid at hvalid
      unfold Source.size at hcost ⊢
      simp only [List.length_append, List.length_reverse, List.length_take]
      omega

theorem block_yield {type steps : Nat} (htype : type ≤ 1) (hs : s.Valid) (hsteps : s.size < steps)
    (h : block type steps out s = .ok (o, none)) :
    o.space = 0 ∨ 3 * s.size + 32 * out.bytes.length < 32 * o.bytes.length + 139 := by
  have hfollows := (block_follows h).suffix.length_le
  dsimp only at hfollows
  obtain rfl | rfl : type = 0 ∨ type = 1 := by omega
  · apply (stored_yield hs h).imp_right
    intro hyield
    omega
  · apply (symbols_yield hs hsteps h).imp_right
    intro hyield
    omega

/-! ## Streams -/

theorem within_readBlockHeader : readBlockHeader.Within 3 :=
  within_bit.bind (fun _ => (within_bits 2).bind (fun _ => within_pure 0 _) (Nat.le_refl 2))
    (Nat.le_refl 3)

theorem within_readStreamHeader : readStreamHeader.Within 48 := by
  refine (within_bits 8).bind (fun first => ?_) (show 8 + 40 ≤ 48 by decide)
  refine (within_bits 8).bind (fun second => ?_) (show 8 + 32 ≤ 40 by decide)
  split
  · exact within_fail _ _
  · split
    · exact within_fail _ _
    · split
      · exact within_fail _ _
      · split
        · exact (within_bits 32).bind (fun _ => within_fail 0 _) (Nat.le_refl 32)
        · exact within_pure _ _

/-- The first block of a stream is stored or in the fixed code, and holds `n` bytes or more. -/
def OpensPlain (n : Nat) (file : Bytes) : Prop :=
  ∃ s last type s₁ steps space out left, readStreamHeader { rest := file } = .ok ((), s) ∧
    readBlockHeader s = .ok ((last, type), s₁) ∧ type ≤ 1 ∧
    block type steps { space } s₁ = .ok (out, some left) ∧ n ≤ out.bytes.length

/-- What the blocks put out begins with what the first of them puts out. -/
theorem exists_first_block {last : Bool} {type steps : Nat} {s₁ : Source} {p : Progress}
    (hread : readBlockHeader s = .ok ((last, type), s₁))
    (h : blocks (steps + 1) out s = .ok p) :
    ∃ q, block type steps out s₁ = .ok q ∧ q.1.bytes <:+ p.1.bytes := by
  unfold blocks proceed at h
  rw [hread] at h
  dsimp only at h
  split at h
  · cases h
  · rename_i o hblock
    obtain rfl := Except.ok.inj h
    exact ⟨_, hblock, List.suffix_refl _⟩
  · rename_i o s₂ hblock
    refine ⟨_, hblock, ?_⟩
    split at h
    · exact (checksum_follows h).suffix
    · exact (blocks_follows h).suffix

/-- A stream that opens with such a block shows what its first bytes have room for. -/
theorem OpensPlain.le_shown {file shown : Bytes} {space k : Nat} (h : OpensPlain n file)
    (hk : k ≤ file.length) (hroom : 32 * n + 260 ≤ 24 * k) (hspace : n ≤ space)
    (hshown : inflate space (file.take k) = .ok shown) : n ≤ shown.length := by
  obtain ⟨s', last, type, s₁', steps, space', o', left, hstream, hblock, htype, hfull, hn⟩ := h
  have hlength : (file.take k).length = k := List.length_take_of_le hk
  have hstart : (⟨[], file.take k⟩ : Source).Valid := by
    show 0 < 8
    decide
  have hsize : (⟨[], file.take k⟩ : Source).size = 8 * k := by
    simp [Source.size, hlength]
  have hwhole : ({ rest := file } : Source) = (⟨[], file.take k⟩ : Source).extend (file.drop k) := by
    rw [Source.extend, List.take_append_drop]
  rw [hwhole] at hstream
  obtain ⟨s, hs, rfl⟩ :=
    within_readStreamHeader.read_part local_readStreamHeader hstart (by omega) hstream
  obtain ⟨hvalid, hcost⟩ := within_readStreamHeader.ok hstart hs
  obtain ⟨s₁, hs₁, rfl⟩ :=
    within_readBlockHeader.read_part consumes_readBlockHeader.toLocal hvalid (by omega) hblock
  obtain ⟨hvalid₁, hcost₁⟩ := within_readBlockHeader.ok hvalid hs₁
  have hfewer : s₁.size < 8 * (file.take k).length := by
    have hle := local_readStreamHeader.size_le hs
    have hlt := consumes_readBlockHeader.size_lt hs₁
    omega
  unfold inflate at hshown
  cases hrun : stream (8 * (file.take k).length + 1) space (file.take k) with
  | error fault =>
      rw [hrun] at hshown
      cases hshown
  | ok p =>
      rw [hrun] at hshown
      obtain rfl : p.1.toList = shown := Except.ok.inj hshown
      unfold stream proceed at hrun
      rw [hs] at hrun
      obtain ⟨⟨o, part⟩, ho, hsuffix⟩ := exists_first_block hs₁ hrun
      have hbytes : ({ space } : Output).bytes = ({ space := space' } : Output).bytes := rfl
      have hbehind := block_behind hbytes hfewer hfull
      rw [ho] at hbehind
      have hfirst : n ≤ o.bytes.length := by
        cases hbehind with
        | done hsame => rwa [hsame]
        | stopped =>
            have htotal := (block_follows ho).total
            dsimp only [List.length_nil] at htotal
            rcases block_yield htype hvalid₁ hfewer ho with hfull | hyield
            · omega
            · dsimp only [List.length_nil] at hyield
              omega
      calc
        n ≤ o.bytes.length := hfirst
        _ ≤ p.1.bytes.length := hsuffix.length_le
        _ = p.1.toList.length := List.length_reverse.symm

end GitCensus.Inflate
