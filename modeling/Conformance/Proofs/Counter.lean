import Conformance.Proofs.Attempt
import Conformance.Proofs.Line

/-!
Counters are machine words in practice and natural numbers here.  A script declares at most as much
as it has bytes, and the totals only grow, so no counter passes the bound of words while the scripts
that were asked for, and their bytes, are fewer than that bound.
-/

namespace Conformance

namespace Text

/-- There are no more lines than characters, because only the last line has no line feed, and that
one is not empty. -/
theorem length_lines_le (t : Text) : (lines t).length ≤ t.length := by
  induction t using lineInduction with
  | last line h =>
      rw [lines_of_not_mem h]
      split
      · exact Nat.zero_le _
      · next hne => exact List.length_pos_iff.2 hne
  | next line rest h ih =>
      rw [lines_append_cons h, List.length_cons, List.length_append, List.length_cons]
      omega

theorem length_firstByte_le (b : UInt8) :
    (firstByte b).1.length + (firstByte b).2.toList.length ≤ 1 := by
  unfold firstByte
  dsimp only
  split_ifs <;> simp

/-- A byte makes at most one character, apart from the one for bytes that were left unfinished. -/
theorem length_decodeByte_le (state : Option Begun) (b : UInt8) :
    (decodeByte state b).1.length + (decodeByte state b).2.toList.length ≤
      state.toList.length + 1 := by
  cases state with
  | none => exact length_firstByte_le b
  | some begun =>
      have hfirst := length_firstByte_le b
      unfold decodeByte nextByte
      dsimp only
      split
      · cases begun.more <;> simp
      · simp only [List.length_cons, Option.toList_some, List.length_nil]
        omega

theorem length_decodeFrom_le (state : Option Begun) (bytes : List UInt8) :
    (decodeFrom state bytes).length ≤ state.toList.length + bytes.length := by
  induction bytes generalizing state with
  | nil => cases state <;> simp [decodeFrom]
  | cons b rest ih =>
      have hbyte := length_decodeByte_le state b
      have hrest := ih (decodeByte state b).2
      rw [decodeFrom_cons, List.length_append, List.length_cons]
      omega

theorem length_ofUtf8_le (bytes : List UInt8) : (ofUtf8 bytes).length ≤ bytes.length := by
  simpa [ofUtf8] using length_decodeFrom_le none bytes

end Text

/-- A script makes no more declarations than it has bytes. -/
theorem Script.markers_le_of_ofBytes {bytes : List UInt8} {e : Expectation}
    (h : Script.ofBytes bytes = .accepted e) : e.markers ≤ bytes.length := by
  obtain ⟨-, rfl⟩ := accepted_of_read h
  calc (declared (Text.ofUtf8 bytes)).markers
      ≤ (Text.lines (Text.ofUtf8 bytes)).length := List.countP_le_length
    _ ≤ (Text.ofUtf8 bytes).length := Text.length_lines_le _
    _ ≤ bytes.length := Text.length_ofUtf8_le bytes

namespace Tally

/-- Every counter is below the bound of 64-bit words. -/
structure Fits (t : Tally) : Prop where
  passed : t.passed < UInt64.size
  failed : t.failed < UInt64.size
  skipped : t.skipped < UInt64.size
  invalid : t.invalid < UInt64.size
  expectations : t.expectations < UInt64.size

/-- No counter is beyond the same counter of other totals. -/
structure Within (t t' : Tally) : Prop where
  passed : t.passed ≤ t'.passed
  failed : t.failed ≤ t'.failed
  skipped : t.skipped ≤ t'.skipped
  invalid : t.invalid ≤ t'.invalid
  expectations : t.expectations ≤ t'.expectations

variable {t t' t'' : Tally}

theorem Within.refl (t : Tally) : t.Within t :=
  ⟨le_rfl, le_rfl, le_rfl, le_rfl, le_rfl⟩

theorem Within.trans (h : t.Within t') (h' : t'.Within t'') : t.Within t'' :=
  ⟨h.passed.trans h'.passed, h.failed.trans h'.failed, h.skipped.trans h'.skipped,
    h.invalid.trans h'.invalid, h.expectations.trans h'.expectations⟩

theorem Fits.of_within (h : t'.Fits) (hwithin : t.Within t') : t.Fits :=
  ⟨hwithin.passed.trans_lt h.passed, hwithin.failed.trans_lt h.failed,
    hwithin.skipped.trans_lt h.skipped, hwithin.invalid.trans_lt h.invalid,
    hwithin.expectations.trans_lt h.expectations⟩

theorem fits_of_files_lt (hfiles : t.files < UInt64.size)
    (hexpectations : t.expectations < UInt64.size) : t.Fits := by
  unfold files at hfiles
  constructor <;> omega

end Tally

namespace Suite

variable {σ ω : Type}

namespace Attempt

theorem within_count (t : Tally) (a : Attempt) : t.Within (a.count t) := by
  constructor <;> exact Nat.le_add_right _ _

theorem files_count_le (t : Tally) (a : Attempt) : (a.count t).files ≤ t.files + 1 := by
  cases a with
  | met outcome markers =>
      cases outcome <;> simp [count, outcome?, Tally.files, Outcome.isPassed, Outcome.isFailed,
        Outcome.isSkipped, Outcome.isInvalid] <;> omega
  | unread e => exact Nat.le_succ _
  | unstarted e markers => exact Nat.le_succ _

end Attempt

/-- A request adds at most as many declarations as the script has bytes. -/
theorem Attempted.markers_le {q : Request ω} {w w' : ω} {a : Attempt} {most : Nat}
    (h : Attempted q w a w')
    (hbytes : ∀ bytes, q.world.read w q.script = .ok bytes → bytes.length ≤ most) :
    a.markers ≤ most := by
  cases h with
  | @met _ v hscript hvisited =>
      rw [← hscript] at hbytes
      cases hvisited with
      | excluded => exact Nat.zero_le most
      | contradictory => exact Nat.zero_le most
      | tested hread haccepted _ =>
          exact (Script.markers_le_of_ofBytes haccepted).trans (hbytes _ hread)
  | unread => exact Nat.zero_le most
  | unstarted hread haccepted _ =>
      exact (Script.markers_le_of_ofBytes haccepted).trans (hbytes _ hread)

/-- What one request adds to the totals. -/
theorem tally_after_ask (q : Request ω) (s : Session σ ω) {most : Nat}
    (hbytes : ∀ w bytes, q.world.read w q.script = .ok bytes → bytes.length ≤ most) :
    s.tally.Within (q.ask s).2.tally ∧ (q.ask s).2.tally.files ≤ s.tally.files + 1 ∧
      (q.ask s).2.tally.expectations ≤ s.tally.expectations + most := by
  obtain ⟨a, hattempted, -, htally⟩ := exists_attempted q s
  rw [htally]
  exact ⟨a.within_count s.tally, a.files_count_le s.tally,
    Nat.add_le_add_left (hattempted.markers_le (hbytes s.world)) s.tally.expectations⟩

/-- What some requests add to the totals. -/
theorem tally_after_askAll (requests : List (Request ω)) (s : Session σ ω) {most : Nat}
    (hbytes : ∀ q ∈ requests, ∀ w bytes, q.world.read w q.script = .ok bytes →
      bytes.length ≤ most) :
    s.tally.Within (askAll requests s).2.tally ∧
      (askAll requests s).2.tally.files ≤ s.tally.files + requests.length ∧
      (askAll requests s).2.tally.expectations ≤
        s.tally.expectations + requests.length * most := by
  induction requests generalizing s with
  | nil => exact ⟨.refl _, le_rfl, Nat.le_add_right _ _⟩
  | cons q requests ih =>
      rw [List.forall_mem_cons] at hbytes
      obtain ⟨hwithin, hfiles, hexpectations⟩ := tally_after_ask q s hbytes.1
      obtain ⟨hrest, hrestFiles, hrestExpectations⟩ := ih (q.ask s).2 hbytes.2
      refine ⟨hwithin.trans hrest, hrestFiles.trans ?_, hrestExpectations.trans ?_⟩
      · rw [List.length_cons]
        omega
      · rw [List.length_cons, Nat.succ_mul]
        omega

theorem askAll_append (front back : List (Request ω)) (s : Session σ ω) :
    (askAll (front ++ back) s).2 = (askAll back (askAll front s).2).2 := by
  induction front generalizing s with
  | nil => rfl
  | cons q front ih => exact ih (q.ask s).2

/-- No counter passes the bound of words on the way through some requests, as long as their number,
and the bytes that so many scripts have, leave room for that. -/
theorem fits_after_requests (requests : List (Request ω)) (s : Session σ ω) {most : Nat}
    (hbytes : ∀ q ∈ requests, ∀ w bytes, q.world.read w q.script = .ok bytes →
      bytes.length ≤ most)
    (hfiles : s.tally.files + requests.length < UInt64.size)
    (hexpectations : s.tally.expectations + requests.length * most < UInt64.size)
    {front back : List (Request ω)} (hsplit : requests = front ++ back) :
    (askAll front s).2.tally.Fits := by
  obtain ⟨-, hallFiles, hallExpectations⟩ := tally_after_askAll requests s hbytes
  have hall : (askAll requests s).2.tally.Fits :=
    Tally.fits_of_files_lt (hallFiles.trans_lt hfiles) (hallExpectations.trans_lt hexpectations)
  subst hsplit
  have hback : ∀ q ∈ back, ∀ w bytes, q.world.read w q.script = .ok bytes → bytes.length ≤ most :=
    fun q hq => hbytes q (List.mem_append_right front hq)
  rw [askAll_append] at hall
  exact hall.of_within (tally_after_askAll back (askAll front s).2 hback).1

end Suite

end Conformance
