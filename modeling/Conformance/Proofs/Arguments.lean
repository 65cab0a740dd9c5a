import Mathlib.Data.List.TakeWhile
import Conformance.CommandLine.Grammar

/-!
How arguments are read.  What every option keeps holds of all arguments that are read in the end,
and a value may as well be attached to its option as follow it.
-/

namespace Conformance.CommandLine

variable {σ α β : Type} {g : Grammar σ} {P : σ → Prop}

theorem bind_eq_ok_iff {m : Except UsageError α} {next : α → Except UsageError β} {b : β} :
    (m >>= next) = .ok b ↔ ∃ a, m = .ok a ∧ next a = .ok b := by
  cases m with
  | error e => exact ⟨nofun, nofun⟩
  | ok a =>
      constructor
      · intro h
        exact ⟨a, rfl, h⟩
      · rintro ⟨_, ⟨⟩, h⟩
        exact h

theorem map_eq_ok_iff {m : Except UsageError α} {f : α → β} {b : β} :
    f <$> m = .ok b ↔ ∃ a, m = .ok a ∧ f a = b := by
  cases m with
  | error e => exact ⟨nofun, nofun⟩
  | ok a => simp [Functor.map, Except.map]

/-! ### What every option keeps -/

/-- A change of the arguments keeps a property when it succeeds. -/
def Keeps (P : σ → Prop) (set : σ → Except UsageError σ) : Prop :=
  ∀ a a', P a → set a = .ok a' → P a'

def Switch.Keeps (P : σ → Prop) : Switch σ → Prop
  | .flag set => CommandLine.Keeps P set
  | .value set => ∀ v, CommandLine.Keeps P (set v)

theorem keeps_help : (help : Switch σ).Keeps P :=
  fun _ _ _ => nofun

theorem keeps_version : (version : Switch σ).Keeps P :=
  fun _ _ _ => nofun

/-- An option that puts what it makes of its value into the arguments. -/
theorem Switch.keeps_value {make : Text → σ → Except UsageError α} {put : σ → α → σ}
    (h : ∀ t a v, P a → make t a = .ok v → P (put a v)) :
    (Switch.value fun t a => do return put a (← make t a)).Keeps P := by
  intro t a a' ha hset
  obtain ⟨v, hv, ⟨⟩⟩ := bind_eq_ok_iff.1 hset
  exact h t a v ha hv

/-- Every option and every positional argument keeps a property. -/
structure Grammar.Keeps (g : Grammar σ) (P : σ → Prop) : Prop where
  long : ∀ name switch, g.long name = some switch → switch.Keeps P
  short : ∀ c switch, g.short c = some switch → switch.Keeps P
  positional : ∀ set, g.positional = some set → ∀ t, CommandLine.Keeps P (set t)

/-- A property of the arguments read so far that the unfinished option keeps. -/
structure Progress.Has (P : σ → Prop) (p : Progress σ) : Prop where
  args : P p.args
  pending : ∀ set given, p.pending = some ⟨set, given⟩ → ∀ v, Keeps P (set v)

namespace Progress

variable {p p' : Progress σ}

theorem Has.of_args {a : σ} (h : P a) : ({ args := a } : Progress σ).Has P :=
  ⟨h, nofun⟩

theorem Has.settle (hp : p.Has P) {a : σ} (h : p.settle = .ok a) : P a := by
  obtain ⟨args, pending⟩ := p
  cases pending with
  | none =>
      cases h
      exact hp.args
  | some pending =>
      obtain ⟨set, given⟩ := pending
      cases given with
      | none => cases h
      | some v => exact hp.pending set (some v) rfl v args a hp.args h

theorem set_eq_ok_iff {f : σ → Except UsageError σ} :
    p.set f = .ok p' ↔ ∃ a, p.settle = .ok a ∧ ∃ a', f a = .ok a' ∧ p' = { args := a' } := by
  simp only [set, bind_eq_ok_iff, pure, Except.pure, Except.ok.injEq, eq_comm (a := p')]

theorem await_eq_ok_iff {f : Text → σ → Except UsageError σ} :
    p.await f = .ok p' ↔
      ∃ a, p.settle = .ok a ∧ p' = { args := a, pending := some ⟨f, none⟩ } := by
  simp only [await, bind_eq_ok_iff, pure, Except.pure, Except.ok.injEq, eq_comm (a := p')]

theorem Has.set (hp : p.Has P) {f : σ → Except UsageError σ} (hf : Keeps P f)
    (h : p.set f = .ok p') : p'.Has P := by
  obtain ⟨a, ha, a', ha', rfl⟩ := set_eq_ok_iff.1 h
  exact .of_args (hf a a' (hp.settle ha) ha')

theorem Has.await (hp : p.Has P) {f : Text → σ → Except UsageError σ} (hf : ∀ v, Keeps P (f v))
    (h : p.await f = .ok p') : p'.Has P := by
  obtain ⟨a, ha, rfl⟩ := await_eq_ok_iff.1 h
  refine ⟨hp.settle ha, ?_⟩
  rintro _ _ ⟨⟩
  exact hf

end Progress

namespace Grammar.Keeps

variable {p p' : Progress σ}

theorem readLong (hg : g.Keeps P) (hp : p.Has P) {t : Text} (h : g.readLong t p = .ok p') :
    p'.Has P := by
  unfold Grammar.readLong at h
  dsimp only at h
  split at h
  · cases h
  · next set hset _ => exact hp.set (hg.long _ _ hset) h
  · cases h
  · next set hset _ => exact hp.await (hg.long _ _ hset) h
  · next set _ v hset _ => exact hp.set (hg.long _ _ hset v) h

theorem readShort (hg : g.Keeps P) (hp : p.Has P) {t : Text} (h : g.readShort t p = .ok p') :
    p'.Has P := by
  induction t generalizing p with
  | nil =>
      cases h
      exact hp
  | cons c t ih =>
      unfold Grammar.readShort at h
      split at h
      · cases h
      · next set hset =>
          obtain ⟨next, hnext, hrest⟩ := bind_eq_ok_iff.1 h
          exact ih (hp.set (hg.short _ _ hset) hnext) hrest
      · next set hset => exact hp.await (hg.short _ _ hset) h
      · next set v hset => exact hp.set (hg.short _ _ hset v) h
      · next set hset _ _ => exact hp.set (hg.short _ _ hset _) h

theorem readPositional (hg : g.Keeps P) (hp : p.Has P) {t : Text}
    (h : g.readPositional t p = .ok p') : p'.Has P := by
  unfold Grammar.readPositional at h
  split at h
  · cases h
  · next set hset => exact hp.set (hg.positional set hset t) h

theorem readOne (hg : g.Keeps P) (hp : p.Has P) {t : Text} (h : g.readOne t p = .ok p') :
    p'.Has P := by
  unfold Grammar.readOne at h
  split at h
  · exact hg.readLong hp h
  · exact hg.readShort hp h
  · unfold readValue at h
    split at h
    · next set hpending =>
        cases h
        refine ⟨hp.args, ?_⟩
        rintro _ _ ⟨⟩
        exact hp.pending set none hpending
    · exact hg.readPositional hp h

theorem readAll (hg : g.Keeps P) {args : List Text} {optionsEnded : Bool} (hp : p.Has P) {a : σ}
    (h : g.readAll optionsEnded args p = .ok a) : P a := by
  induction args generalizing optionsEnded p with
  | nil => exact hp.settle h
  | cons t rest ih =>
      unfold Grammar.readAll at h
      split at h
      · obtain ⟨next, hnext, hrest⟩ := bind_eq_ok_iff.1 h
        exact ih (hg.readPositional hp hnext) hrest
      · split at h
        · exact ih hp h
        · obtain ⟨next, hnext, hrest⟩ := bind_eq_ok_iff.1 h
          exact ih (hg.readOne hp hnext) hrest

/-- What every option keeps, and what holds before anything is read, holds of what is read. -/
theorem read (hg : g.Keeps P) {start a : σ} (hstart : P start) {args : List Text}
    (h : g.read start args = .ok a) : P a :=
  hg.readAll (.of_args hstart) h

end Grammar.Keeps

/-! ### Values of options -/

namespace Progress

variable {p p' : Progress σ}

/-- No option waits for the next argument. -/
def Complete (p : Progress σ) : Prop :=
  ∀ set, p.pending ≠ some ⟨set, none⟩

theorem complete_of_args (a : σ) : ({ args := a } : Progress σ).Complete :=
  nofun

theorem complete_of_given (a : σ) (set : Text → σ → Except UsageError σ) (v : Text) :
    ({ args := a, pending := some ⟨set, some v⟩ } : Progress σ).Complete := by
  rintro _ ⟨⟩

theorem set_iff_settled {f : σ → Except UsageError σ} :
    p.set f = .ok p' ↔ ∃ a, p.settle = .ok a ∧ ({ args := a } : Progress σ).set f = .ok p' := by
  simp [set_eq_ok_iff, settle]

theorem await_iff_settled {f : Text → σ → Except UsageError σ} :
    p.await f = .ok p' ↔ ∃ a, p.settle = .ok a ∧ ({ args := a } : Progress σ).await f = .ok p' := by
  simp [await_eq_ok_iff, settle]

end Progress

namespace Grammar

variable {p p' : Progress σ} {set : Text → σ → Except UsageError σ} {t name : Text}

/-- Each argument finishes the option before it, unless that still waits for its value. -/
theorem readLong_iff_settled :
    g.readLong t p = .ok p' ↔
      ∃ a, p.settle = .ok a ∧ g.readLong t ({ args := a } : Progress σ) = .ok p' := by
  unfold readLong
  dsimp only
  split
  · simp
  · exact Progress.set_iff_settled
  · simp
  · exact Progress.await_iff_settled
  · exact Progress.set_iff_settled

theorem readShort_iff_settled {c : Char} :
    g.readShort (c :: t) p = .ok p' ↔
      ∃ a, p.settle = .ok a ∧ g.readShort (c :: t) ({ args := a } : Progress σ) = .ok p' := by
  unfold readShort
  split
  · simp
  · simp only [bind_eq_ok_iff, Progress.set_iff_settled (p := p)]
    constructor
    · rintro ⟨next, ⟨a, ha, hset⟩, hrest⟩
      exact ⟨a, ha, next, hset, hrest⟩
    · rintro ⟨a, ha, next, hset, hrest⟩
      exact ⟨next, ⟨a, ha, hset⟩, hrest⟩
  · exact Progress.await_iff_settled
  · exact Progress.set_iff_settled
  · exact Progress.set_iff_settled

theorem readPositional_iff_settled :
    g.readPositional t p = .ok p' ↔
      ∃ a, p.settle = .ok a ∧ g.readPositional t ({ args := a } : Progress σ) = .ok p' := by
  unfold readPositional
  split
  · simp
  · exact Progress.set_iff_settled

theorem readValue_of_complete (hp : p.Complete) : g.readValue t p = g.readPositional t p := by
  unfold readValue
  split
  · next set hpending => exact absurd hpending (hp set)
  · rfl

theorem readOne_iff_settled (hp : p.Complete) :
    g.readOne t p = .ok p' ↔
      ∃ a, p.settle = .ok a ∧ g.readOne t ({ args := a } : Progress σ) = .ok p' := by
  unfold readOne
  split
  · exact readLong_iff_settled
  · exact readShort_iff_settled
  · rw [readValue_of_complete hp, readPositional_iff_settled]
    simp only [readValue_of_complete (Progress.complete_of_args _)]

theorem readAll_iff_settled {args : List Text} {optionsEnded : Bool} {a : σ} (hp : p.Complete) :
    g.readAll optionsEnded args p = .ok a ↔
      ∃ a', p.settle = .ok a' ∧
        g.readAll optionsEnded args ({ args := a' } : Progress σ) = .ok a := by
  induction args generalizing optionsEnded with
  | nil => simp [readAll, Progress.settle]
  | cons t rest ih =>
      -- Options and positional arguments are read in the same way: the option before them is
      -- finished, and then the rest is read.
      have hswap {m : Progress σ → Except UsageError (Progress σ)}
          (h : ∀ next, m p = .ok next ↔
            ∃ a', p.settle = .ok a' ∧ m ({ args := a' } : Progress σ) = .ok next) :
          (∃ next, m p = .ok next ∧ g.readAll optionsEnded rest next = .ok a) ↔
            ∃ a', p.settle = .ok a' ∧ ∃ next, m ({ args := a' } : Progress σ) = .ok next ∧
              g.readAll optionsEnded rest next = .ok a := by
        simp only [h]
        constructor
        · rintro ⟨next, ⟨a', ha', hnext⟩, hrest⟩
          exact ⟨a', ha', next, hnext, hrest⟩
        · rintro ⟨a', ha', next, hnext, hrest⟩
          exact ⟨next, ⟨a', ha', hnext⟩, hrest⟩
      unfold readAll
      cases optionsEnded with
      | true =>
          simp only [if_true, bind_eq_ok_iff]
          exact hswap (m := g.readPositional t) fun _ => readPositional_iff_settled
      | false =>
          simp only [Bool.false_eq_true, if_false]
          split
          · exact ih
          · simp only [bind_eq_ok_iff]
            exact hswap (m := g.readOne t) fun _ => readOne_iff_settled hp

/-- An argument that is read as an option wherever it stands. -/
def IsOption (t : Text) : Prop :=
  ∃ c rest, t = '-' :: c :: rest

theorem readOne_of_not_isOption (h : ¬ IsOption t) : g.readOne t p = g.readValue t p := by
  unfold readOne
  split
  · exact absurd ⟨_, _, rfl⟩ h
  · exact absurd ⟨_, _, rfl⟩ h
  · rfl

theorem forall_ne_of_not_mem (hname : '=' ∉ name) : ∀ c ∈ name, decide (c ≠ '=') = true := by
  intro c hc
  rw [decide_eq_true_eq]
  rintro rfl
  exact hname hc

/-- A long option with a value attached to it. -/
def attached (name v : Text) : Text :=
  '-' :: '-' :: (name ++ '=' :: v)

theorem readLong_attached (hset : g.long name = some (.value set)) (hname : '=' ∉ name)
    (v : Text) (p : Progress σ) : g.readLong (name ++ '=' :: v) p = p.set (set v) := by
  have htake : (name ++ '=' :: v).takeWhile (· ≠ '=') = name := by
    rw [List.takeWhile_append_of_pos (forall_ne_of_not_mem hname)]
    simp
  unfold readLong
  rw [htake]
  simp only [List.drop_left, hset]

theorem readLong_alone (hname : '=' ∉ name) (p : Progress σ) :
    g.readLong name p =
      match g.long name with
      | none => .error .unknownArgument
      | some (.flag set) => p.set set
      | some (.value set) => p.await set := by
  have htake : name.takeWhile (· ≠ '=') = name :=
    List.takeWhile_eq_self_iff.2 (forall_ne_of_not_mem hname)
  unfold readLong
  rw [htake]
  simp only [List.drop_length]
  cases g.long name with
  | none => rfl
  | some switch => cases switch <;> rfl

theorem readAll_cons_eq_ok_iff {rest : List Text} {a : σ} (ht : t ≠ ['-', '-']) :
    g.readAll false (t :: rest) p = .ok a ↔
      ∃ next, g.readOne t p = .ok next ∧ g.readAll false rest next = .ok a := by
  rw [readAll, if_neg Bool.false_ne_true, if_neg ht, bind_eq_ok_iff]

/-- A value that does not look like an option may as well be attached to its option as follow it. -/
theorem readAll_value_iff_attached {v : Text} {rest : List Text} {a : σ}
    (hset : g.long name = some (.value set)) (hname : '=' ∉ name) (hne : name ≠ [])
    (hv : ¬ IsOption v) :
    g.readAll false (('-' :: '-' :: name) :: v :: rest) p = .ok a ↔
      g.readAll false (attached name v :: rest) p = .ok a := by
  have hdashes : v ≠ ['-', '-'] := by
    rintro rfl
    exact hv ⟨'-', [], rfl⟩
  have hvalue (a' : σ) : g.readOne v ({ args := a', pending := some ⟨set, none⟩ } : Progress σ) =
      .ok { args := a', pending := some ⟨set, some v⟩ } := readOne_of_not_isOption hv
  have halone : g.readOne ('-' :: '-' :: name) p = p.await set := by
    rw [readOne, readLong_alone hname, hset]
  have hattached : g.readOne (attached name v) p = p.set (set v) := by
    rw [attached, readOne, readLong_attached hset hname]
  rw [readAll_cons_eq_ok_iff (by simpa using hne),
    readAll_cons_eq_ok_iff (by simp [attached]), halone, hattached]
  simp only [Progress.await_eq_ok_iff, Progress.set_eq_ok_iff]
  constructor
  · rintro ⟨_, ⟨a', ha', rfl⟩, h⟩
    obtain ⟨_, hnext, hrest⟩ := (readAll_cons_eq_ok_iff hdashes).1 h
    rw [hvalue] at hnext
    cases hnext
    obtain ⟨a'', ha'', hread⟩ :=
      (readAll_iff_settled (Progress.complete_of_given a' set v)).1 hrest
    exact ⟨_, ⟨a', ha', a'', ha'', rfl⟩, hread⟩
  · rintro ⟨_, ⟨a', ha', a'', ha'', rfl⟩, hread⟩
    refine ⟨_, ⟨a', ha', rfl⟩, (readAll_cons_eq_ok_iff hdashes).2 ⟨_, hvalue a', ?_⟩⟩
    exact (readAll_iff_settled (Progress.complete_of_given a' set v)).2 ⟨a'', ha'', hread⟩

/-! ### Options one after the other -/

theorem readAll_attached {v : Text} {rest : List Text} {a : σ} (a' : σ)
    (hset : g.long name = some (.value set)) (hname : '=' ∉ name) (hv : set v a = .ok a') :
    g.readAll false (attached name v :: rest) { args := a } = g.readAll false rest { args := a' } := by
  have hone : g.readOne (attached name v) ({ args := a } : Progress σ) = .ok { args := a' } := by
    rw [attached, readOne, readLong_attached hset hname]
    exact Progress.set_eq_ok_iff.2 ⟨a, rfl, a', hv, rfl⟩
  rw [readAll, if_neg Bool.false_ne_true, if_neg (by simp [attached]), hone]
  rfl

theorem readAll_flag {flag : σ → Except UsageError σ} {rest : List Text} {a : σ} (a' : σ)
    (hset : g.long name = some (.flag flag)) (hname : '=' ∉ name) (hne : name ≠ [])
    (h : flag a = .ok a') :
    g.readAll false (('-' :: '-' :: name) :: rest) { args := a } =
      g.readAll false rest { args := a' } := by
  have hone : g.readOne ('-' :: '-' :: name) ({ args := a } : Progress σ) =
      .ok { args := a' } := by
    rw [readOne, readLong_alone hname, hset]
    exact Progress.set_eq_ok_iff.2 ⟨a, rfl, a', h, rfl⟩
  rw [readAll, if_neg Bool.false_ne_true, if_neg (by simpa using hne), hone]
  rfl

end Grammar

end Conformance.CommandLine
