import GitCensus.Proofs.Inflate.Reading
/-!
# Inflating a part of a stream

A stream that is cut off inflates to a beginning of what the whole stream inflates to.  The
two runs go alike until the shorter one stops, because its data ends or its space is used up.
-/

namespace GitCensus.Inflate

variable {α : Type} {out out' o o' : Output} {s s' r r' : Source} {more : Bytes} {p : Progress}
  {distance m n : Nat} {codes : Codes}

/-! ## Output -/

namespace Output

theorem length_bytes_copy (out : Output) (distance n : Nat) :
    (out.copy distance n).bytes.length = out.bytes.length + n := by
  induction n generalizing out with
  | zero => rfl
  | succ n ih =>
      rw [copy, ih, List.length_cons]
      omega

theorem space_copy (out : Output) (distance n : Nat) :
    (out.copy distance n).space = out.space - n := by
  induction n generalizing out with
  | zero => rfl
  | succ n ih =>
      rw [copy, ih]
      show out.space - 1 - n = out.space - (n + 1)
      omega

theorem bytes_copy_congr (h : out.bytes = out'.bytes) :
    (out.copy distance n).bytes = (out'.copy distance n).bytes := by
  induction n generalizing out out' with
  | zero => exact h
  | succ n ih =>
      rw [copy, copy, h]
      exact ih rfl

theorem suffix_copy (out : Output) (distance n : Nat) :
    out.bytes <:+ (out.copy distance n).bytes := by
  induction n generalizing out with
  | zero => exact List.suffix_refl _
  | succ n ih =>
      refine List.IsSuffix.trans ?_ (ih _)
      exact List.suffix_cons _ out.bytes

/-- Repeating more output only adds to it. -/
theorem copy_suffix_copy (h : m ≤ n) :
    (out.copy distance m).bytes <:+ (out.copy distance n).bytes := by
  induction m generalizing out n with
  | zero => exact out.suffix_copy distance n
  | succ m ih =>
      obtain ⟨n, rfl⟩ : ∃ k, n = k + 1 := ⟨n - 1, by omega⟩
      exact ih (Nat.le_of_succ_le_succ h)

theorem checksum_congr (h : out.bytes = out'.bytes) : out.checksum = out'.checksum := by
  unfold checksum toList
  rw [h]

end Output

/-! ## What a run leaves -/

/-- What holds wherever a run stands: output was only added, space was used for it, and
nothing is read twice. -/
structure Follows (out : Output) (s : Source) (p : Progress) : Prop where
  suffix : out.bytes <:+ p.1.bytes
  total : p.1.bytes.length + p.1.space = out.bytes.length + out.space
  size_le : ∀ r, p.2 = some r → r.size ≤ s.size

theorem Follows.stopped (out : Output) (s : Source) : Follows out s (out, none) where
  suffix := List.suffix_refl _
  total := rfl
  size_le r h := by cases h

theorem Follows.read (out : Output) (h : s'.size ≤ s.size) : Follows out s (out, some s') where
  suffix := List.suffix_refl _
  total := rfl
  size_le r hr := by
    obtain rfl := Option.some.inj hr
    exact h

theorem Follows.trans (hfirst : Follows out s (o, some r)) (hrest : Follows o r p) :
    Follows out s p where
  suffix := hfirst.suffix.trans hrest.suffix
  total := hrest.total.trans hfirst.total
  size_le r' hr' := Nat.le_trans (hrest.size_le r' hr') (hfirst.size_le r rfl)

/-- A second run that has put out the same so far is also at a beginning of what comes. -/
theorem Follows.suffix_of_eq (h : Follows out' s p) (hout : out.bytes = out'.bytes) :
    out.bytes <:+ p.1.bytes := by
  rw [hout]
  exact h.suffix

theorem follows_literal (b : UInt8) (h : out.space ≠ 0) :
    Follows out s (⟨b :: out.bytes, out.space - 1⟩, some s) where
  suffix := List.suffix_cons b out.bytes
  total := by
    show (b :: out.bytes).length + (out.space - 1) = _
    rw [List.length_cons]
    omega
  size_le := (Follows.read out (Nat.le_refl s.size)).size_le

theorem follows_copy (h : n ≤ out.space) : Follows out s (out.copy distance n, some s) where
  suffix := out.suffix_copy distance n
  total := by
    rw [out.length_bytes_copy, out.space_copy]
    omega
  size_le := (Follows.read out (Nat.le_refl s.size)).size_le

theorem follows_append (bs : Bytes) {left : Option Source}
    (h : ∀ r, left = some r → r.size ≤ s.size) : Follows out s ((out.append bs).1, left) where
  suffix := List.suffix_append _ _
  total := by
    simp only [Output.append, List.length_append, List.length_reverse, List.length_take]
    omega
  size_le := h

theorem follows_proceed {read : Reader α} {next : α → Source → Except Fault Progress}
    (hread : ∀ a s', read s = .ok (a, s') → s'.size ≤ s.size)
    (hnext : ∀ a s', next a s' = .ok p → Follows out s' p)
    (h : proceed read out s next = .ok p) : Follows out s p := by
  unfold proceed at h
  split at h
  · obtain rfl := Except.ok.inj h
    exact .stopped out s
  · cases h
  · rename_i a s' hs
    exact (Follows.read out (hread a s' hs)).trans (hnext a s' h)

theorem symbols_follows {steps : Nat} (h : symbols codes steps out s = .ok p) :
    Follows out s p := by
  induction steps generalizing out s with
  | zero =>
      obtain rfl := Except.ok.inj h
      exact .stopped out s
  | succ steps ih =>
      refine follows_proceed (fun _ _ => (consumes_readSymbol codes).size_le) ?_ h
      intro symbol s h
      cases symbol with
      | endOfBlock =>
          obtain rfl := Except.ok.inj h
          exact .read out (Nat.le_refl s.size)
      | literal b =>
          dsimp only at h
          split at h
          · obtain rfl := Except.ok.inj h
            exact .stopped out s
          · exact (follows_literal b ‹_›).trans (ih h)
      | copy length distance =>
          dsimp only at h
          have hcopied : Follows out s (out.copy distance (min length out.space), some s) :=
            follows_copy (Nat.min_le_right _ _)
          split at h
          · obtain rfl := Except.ok.inj h
            exact .stopped out s
          · split at h
            · cases h
            · split at h
              · obtain rfl := Except.ok.inj h
                exact hcopied.trans (.stopped _ s)
              · exact hcopied.trans (ih h)

theorem size_drop_le (s : Source) (n : Nat) :
    ({ s with rest := s.rest.drop n } : Source).size ≤ s.size := by
  simp only [Source.size, List.length_drop]
  omega

theorem stored_follows (h : stored out s = .ok p) : Follows out s p := by
  refine follows_proceed (fun _ _ => local_readStoredLength.size_le) ?_ h
  intro length s h
  obtain rfl := Except.ok.inj h
  refine follows_append _ fun r hr => ?_
  split at hr
  · obtain rfl := Option.some.inj hr
    exact size_drop_le s length
  · cases hr

theorem block_follows {type steps : Nat} (h : block type steps out s = .ok p) :
    Follows out s p := by
  unfold block at h
  split at h
  · exact stored_follows h
  · exact symbols_follows h
  · exact follows_proceed (fun _ _ => local_readCodes.size_le) (fun _ _ => symbols_follows) h
  · cases h

theorem checksum_follows
    (h : proceed (readChecksum out) out s (fun _ s => .ok (out, some s)) = .ok p) :
    Follows out s p := by
  refine follows_proceed (fun _ _ => (local_readChecksum out).size_le) ?_ h
  intro _ s h
  obtain rfl := Except.ok.inj h
  exact .read out (Nat.le_refl s.size)

theorem blocks_follows {steps : Nat} (h : blocks steps out s = .ok p) : Follows out s p := by
  induction steps generalizing out s with
  | zero =>
      obtain rfl := Except.ok.inj h
      exact .stopped out s
  | succ steps ih =>
      refine follows_proceed (fun _ _ => consumes_readBlockHeader.size_le) ?_ h
      rintro ⟨last, type⟩ s h
      dsimp only at h
      split at h
      · cases h
      · rename_i hblock
        obtain rfl := Except.ok.inj h
        exact block_follows hblock
      · rename_i out' s' hblock
        apply (block_follows hblock).trans
        split at h
        · exact checksum_follows h
        · exact ih h

/-! ## Two runs -/

/-- How a run on the beginning of some data may stand when the run on all of it comes to the
output `o'` with `r'` left to read: at the same place, or it stopped on the way, for lack of
space or because there is more data. -/
inductive Behind (more : Bytes) (o' : Output) (r' : Source) : Except Fault Progress → Prop where
  | done {o : Output} {r : Source} (bytes : o.bytes = o'.bytes) (rest : r.extend more = r') :
      Behind more o' r' (.ok (o, some r))
  | stopped {o : Output} (bytes : o.bytes <:+ o'.bytes) (cause : o.space = 0 ∨ more ≠ []) :
      Behind more o' r' (.ok (o, none))

theorem proceed_behind {read : Reader α} {next next' : α → Source → Except Fault Progress}
    (hread : read.Local) (hsuffix : out.bytes <:+ o'.bytes)
    (hfull : proceed read out' (s.extend more) next' = .ok (o', some r'))
    (hnext : ∀ a s₁, read s = .ok (a, s₁) → next' a (s₁.extend more) = .ok (o', some r') →
      Behind more o' r' (next a s₁)) :
    Behind more o' r' (proceed read out s next) := by
  unfold proceed at hfull ⊢
  cases hs : read s with
  | error stop =>
      cases stop with
      | ended =>
          refine .stopped hsuffix (.inr fun hmore => ?_)
          subst hmore
          rw [Source.extend_nil, hs] at hfull
          cases hfull
      | failed fault =>
          rw [hread.failed more hs] at hfull
          cases hfull
  | ok q =>
      obtain ⟨a, s₁⟩ := q
      rw [hread.ok more hs] at hfull
      exact hnext a s₁ hs hfull

/-- A copy is cut off where the space ends. -/
theorem copy_behind {length : Nat} (hout : out.bytes = out'.bytes) (hspace : out.space < length)
    (hrest : (out'.copy distance length).bytes <:+ o'.bytes) :
    Behind more o' r' (.ok (out.copy distance (min length out.space), none)) := by
  refine .stopped ?_ (.inl ?_)
  · rw [Output.bytes_copy_congr hout]
    exact (Output.copy_suffix_copy (Nat.min_le_left _ _)).trans hrest
  · rw [out.space_copy, Nat.min_eq_right (Nat.le_of_lt hspace), Nat.sub_self]

theorem symbols_behind {steps steps' : Nat} (hout : out.bytes = out'.bytes)
    (hsteps : s.size < steps)
    (hfull : symbols codes steps' out' (s.extend more) = .ok (o', some r')) :
    Behind more o' r' (symbols codes steps out s) := by
  induction steps' generalizing out out' s steps with
  | zero => cases hfull
  | succ steps' ih =>
      obtain ⟨steps, rfl⟩ : ∃ k, steps = k + 1 := ⟨steps - 1, by omega⟩
      have hsuffix := (symbols_follows hfull).suffix_of_eq hout
      refine proceed_behind (consumes_readSymbol codes).toLocal hsuffix hfull ?_
      intro symbol s₁ hread hrest
      have hsize : s₁.size < steps := by
        have hlt := (consumes_readSymbol codes).size_lt hread
        omega
      cases symbol with
      | endOfBlock =>
          cases hrest
          exact .done hout rfl
      | literal b =>
          dsimp only at hrest ⊢
          split at hrest
          · cases hrest
          · split
            · exact .stopped hsuffix (.inl ‹_›)
            · exact ih (congrArg (b :: ·) hout) hsize hrest
      | copy length distance =>
          dsimp only at hrest ⊢
          split at hrest
          · cases hrest
          · split at hrest
            · cases hrest
            · split at hrest
              · cases hrest
              · rename_i hfar hspace
                rw [Nat.min_eq_left (Nat.le_of_not_lt hspace)] at hrest
                rw [← hout] at hfar
                rw [if_neg hfar]
                split
                · exact .stopped hsuffix (.inl ‹_›)
                · split
                  · exact copy_behind hout ‹_› (symbols_follows hrest).suffix
                  · rename_i henough
                    rw [Nat.min_eq_left (Nat.le_of_not_lt henough)]
                    exact ih (Output.bytes_copy_congr hout) hsize hrest

theorem stored_behind (hout : out.bytes = out'.bytes)
    (hfull : stored out' (s.extend more) = .ok (o', some r')) :
    Behind more o' r' (stored out s) := by
  have hsuffix := (stored_follows hfull).suffix_of_eq hout
  refine proceed_behind local_readStoredLength hsuffix hfull ?_
  intro length s₁ _ hrest
  simp only [proceed, Reader.bytes, Output.append, Source.extend, Bool.and_eq_true,
    decide_eq_true_eq] at hrest ⊢
  obtain ⟨rfl, hleft⟩ := Prod.mk.inj (Except.ok.inj hrest)
  split at hleft
  · rename_i hcomplete
    obtain rfl := Option.some.inj hleft
    rw [List.take_of_length_le hcomplete.1]
    have hpart : s₁.rest.take length <+: (s₁.rest ++ more).take length := by
      rw [List.take_append]
      exact List.prefix_append _ _
    split
    · rename_i hwhole
      have hall : length ≤ s₁.rest.length := by
        have hlength := hwhole.2
        rw [List.length_take] at hlength
        omega
      refine .done ?_ ?_
      · rw [List.take_of_length_le hwhole.1, hout, List.take_append_of_le_length hall]
      · simp only [Source.extend, List.drop_append_of_le_length hall]
    · rename_i hcut
      refine .stopped ?_ ?_
      · rw [hout, List.suffix_append_self_iff, List.reverse_suffix]
        exact (List.take_prefix _ _).trans hpart
      · by_cases hspace : (s₁.rest.take length).length ≤ out.space
        · refine .inr fun hmore => hcut ⟨hspace, ?_⟩
          rw [hmore, List.append_nil] at hcomplete
          exact hcomplete.2
        · exact .inl (Nat.sub_eq_zero_of_le (Nat.le_of_not_le hspace))
  · cases hleft

theorem block_behind {type steps steps' : Nat} (hout : out.bytes = out'.bytes)
    (hsteps : s.size < steps)
    (hfull : block type steps' out' (s.extend more) = .ok (o', some r')) :
    Behind more o' r' (block type steps out s) := by
  have hsuffix := (block_follows hfull).suffix_of_eq hout
  unfold block at hfull ⊢
  split at hfull
  · exact stored_behind hout hfull
  · exact symbols_behind hout hsteps hfull
  · refine proceed_behind local_readCodes hsuffix hfull ?_
    intro codes s₁ hread hrest
    exact symbols_behind hout (Nat.lt_of_le_of_lt (local_readCodes.size_le hread) hsteps) hrest
  · cases hfull

theorem readChecksum_congr (h : out.bytes = out'.bytes) : readChecksum out = readChecksum out' := by
  unfold readChecksum
  rw [Output.checksum_congr h]

theorem blocks_behind {steps steps' : Nat} (hout : out.bytes = out'.bytes)
    (hsteps : s.size < steps)
    (hfull : blocks steps' out' (s.extend more) = .ok (o', some r')) :
    Behind more o' r' (blocks steps out s) := by
  induction steps' generalizing out out' s steps with
  | zero => cases hfull
  | succ steps' ih =>
      obtain ⟨steps, rfl⟩ : ∃ k, steps = k + 1 := ⟨steps - 1, by omega⟩
      have hsuffix := (blocks_follows hfull).suffix_of_eq hout
      refine proceed_behind consumes_readBlockHeader.toLocal hsuffix hfull ?_
      rintro ⟨last, type⟩ s₁ hread hrest
      have hsize : s₁.size < steps := by
        have hlt := consumes_readBlockHeader.size_lt hread
        omega
      dsimp only at hrest ⊢
      split at hrest
      · cases hrest
      · cases hrest
      · rename_i o₁' s₂' hblock
        have hfollows : Follows o₁' s₂' (o', some r') := by
          split at hrest
          · exact checksum_follows hrest
          · exact blocks_follows hrest
        have hbehind := block_behind hout hsize hblock
        generalize hcut : block type steps out s₁ = cut at hbehind ⊢
        cases hbehind with
        | stopped hbytes hcause => exact .stopped (hbytes.trans hfollows.suffix) hcause
        | @done o₁ s₂ hbytes hleft =>
            subst hleft
            dsimp only
            split at hrest
            · rw [if_pos ‹_›, readChecksum_congr hbytes]
              refine proceed_behind (local_readChecksum o₁') (hfollows.suffix_of_eq hbytes) hrest ?_
              intro _ s₃ _ hrest
              cases hrest
              exact .done hbytes rfl
            · rw [if_neg ‹_›]
              have hsize₂ := (block_follows hcut).size_le s₂ rfl
              exact ih hbytes (Nat.lt_of_le_of_lt hsize₂ hsize) hrest

/-! ## Streams -/

/-- A file is a stream: it is read to its end, and this is the text it inflates to. -/
def Inflates (file text : Bytes) : Prop :=
  ∃ steps space out, stream steps space file = .ok (out, some { rest := [] }) ∧ out.toList = text

theorem stream_behind {steps steps' space space' : Nat} {data : Bytes}
    (hsteps : 8 * data.length < steps)
    (hfull : stream steps' space' (data ++ more) = .ok (o', some r')) :
    Behind more o' r' (stream steps space data) := by
  have hbytes : ({ space } : Output).bytes = ({ space := space' } : Output).bytes := rfl
  refine proceed_behind local_readStreamHeader List.nil_suffix hfull ?_
  intro _ s hread hrest
  have hsize : s.size ≤ 8 * data.length := by
    simpa [Source.size] using local_readStreamHeader.size_le hread
  exact blocks_behind hbytes (Nat.lt_of_le_of_lt hsize hsteps) hrest

theorem stream_follows {steps space : Nat} {data : Bytes} (h : stream steps space data = .ok p) :
    Follows { space } { rest := data } p :=
  follows_proceed (fun _ _ => local_readStreamHeader.size_le) (fun _ _ => blocks_follows) h

/-- No more is inflated than there is space for. -/
theorem length_inflate_le {n : Nat} {data shown : Bytes} (h : inflate n data = .ok shown) :
    shown.length ≤ n := by
  unfold inflate at h
  cases hstream : stream (8 * data.length + 1) n data with
  | error fault =>
      rw [hstream] at h
      cases h
  | ok progress =>
      obtain ⟨out, source⟩ := progress
      rw [hstream] at h
      obtain rfl : out.toList = shown := Except.ok.inj h
      have htotal := (stream_follows hstream).total
      rw [Output.toList, List.length_reverse]
      dsimp only [List.length_nil] at htotal
      omega

/-- The first bytes of a stream inflate, to a beginning of its text that is no longer than
there is space for; and where they are all of the stream, nothing else cuts it off. -/
theorem inflate_take {file text : Bytes} (h : Inflates file text) (n k : Nat) :
    ∃ shown, inflate n (file.take k) = .ok shown ∧ shown <+: text ∧ shown.length ≤ n ∧
      (file.length ≤ k → shown = text.take n) := by
  obtain ⟨steps, space, out, hfull, rfl⟩ := h
  rw [← List.take_append_drop k file] at hfull
  have hsteps : 8 * (file.take k).length < 8 * (file.take k).length + 1 := Nat.lt_succ_self _
  have hbehind : Behind _ _ _ (stream _ n (file.take k)) := stream_behind hsteps hfull
  unfold inflate
  generalize hcut : stream (8 * (file.take k).length + 1) n (file.take k) = cut at hbehind ⊢
  cases hbehind with
  | @done o r hbytes hleft =>
      have htotal := (stream_follows hcut).total
      dsimp only [List.length_nil] at htotal
      have hlength : o.toList.length ≤ n := by
        rw [Output.toList, List.length_reverse]
        omega
      have hsame : o.toList = out.toList := congrArg List.reverse hbytes
      refine ⟨o.toList, rfl, hsame ▸ List.prefix_refl _, hlength, fun _ => ?_⟩
      rw [← hsame, List.take_of_length_le hlength]
  | @stopped o hbytes hcause =>
      have htotal := (stream_follows hcut).total
      dsimp only [List.length_nil] at htotal
      have hprefix : o.toList <+: out.toList := List.reverse_prefix.mpr hbytes
      have hlength : o.toList.length + o.space = n := by
        rw [Output.toList, List.length_reverse]
        omega
      refine ⟨o.toList, rfl, hprefix, by omega, fun hk => ?_⟩
      rcases hcause with hspace | hmore
      · rw [hspace, Nat.add_zero] at hlength
        rw [← hlength]
        exact List.prefix_iff_eq_take.mp hprefix
      · exact absurd (List.drop_of_length_le hk) hmore

end GitCensus.Inflate
