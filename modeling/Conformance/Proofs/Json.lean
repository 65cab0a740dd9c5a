import Mathlib.Tactic.SplitIfs
import Conformance.Json.Reading

/-!
JSON that is written and read again.  A value is read back from its text if its numbers are numbers
by the grammar, and it takes one line however many line feeds its texts hold.
-/

namespace Conformance.Json

/-! ### Strings -/

theorem hexValue?_hexDigit {n : Nat} (h : n < 16) : hexValue? (hexDigit n) = some n := by
  revert n
  decide

/-- The letters that are written behind a backslash. -/
theorem units?_shorthand {letter c : Char} (h : shorthand? letter = some c) (rest : Text) :
    units? ('\\' :: letter :: rest) = (units? rest).map fun p => (c.toNat :: p.1, p.2) := by
  have hu : letter ≠ 'u' := by
    rintro rfl
    cases h
  rw [units?]
  · rw [h]
    cases units? rest <;> rfl
  · rintro _ _ _ _ _ rfl
    exact absurd rfl hu

theorem units?_escape (c : Char) (rest : Text) :
    units? (escape c ++ rest) = (units? rest).map fun p => (c.toNat :: p.1, p.2) := by
  unfold escape
  split_ifs with h₁ h₂ h₃ h₄ h₅ h₆ h₇ h₈
  · subst h₁; exact units?_shorthand rfl rest
  · subst h₂; exact units?_shorthand rfl rest
  · subst h₃; exact units?_shorthand rfl rest
  · subst h₄; exact units?_shorthand rfl rest
  · subst h₅; exact units?_shorthand rfl rest
  · subst h₆; exact units?_shorthand rfl rest
  · subst h₇; exact units?_shorthand rfl rest
  · have hunit : unit? '0' '0' (hexDigit (c.toNat / 16)) (hexDigit (c.toNat % 16)) =
        some c.toNat := by
      rw [unit?, hexValue?_hexDigit (by omega), hexValue?_hexDigit (by omega)]
      simp [hexValue?]
      omega
    simp only [List.cons_append, List.nil_append]
    rw [units?, hunit]
    cases units? rest <;> rfl
  · have hordinary : c ≠ '\\' ∧ 0x20 ≤ c.toNat := ⟨h₂, by omega⟩
    rw [List.singleton_append, units?]
    · rw [if_pos hordinary]
      cases units? rest <;> rfl
    · exact h₁
    · rintro _ _ _ _ _ rfl
      exact absurd rfl h₂
    · rintro _ _ rfl
      exact absurd rfl h₂

theorem units?_renderText (t rest : Text) :
    units? (t.flatMap escape ++ '"' :: rest) = some (t.map Char.toNat, rest) := by
  induction t with
  | nil => rfl
  | cons c t ih =>
      rw [List.flatMap_cons, List.append_assoc, units?_escape, ih]
      rfl

theorem ofUnits?_cons {n : Nat} (hhigh : isHigh n = false) (hlow : isLow n = false)
    (units : List Nat) : ofUnits? (n :: units) = (ofUnits? units).map (Char.ofNat n :: ·) := by
  cases units <;> simp [ofUnits?, hhigh, hlow]

/-- No character is a surrogate. -/
theorem ofUnits?_map_toNat (t : Text) : ofUnits? (t.map Char.toNat) = some t := by
  induction t with
  | nil => rfl
  | cons c t ih =>
      have hvalid : c.toNat < 0xD800 ∨ (0xDFFF < c.toNat ∧ c.toNat < 0x110000) := c.valid
      have hhigh : isHigh c.toNat = false := by
        simp [isHigh]
        omega
      have hlow : isLow c.toNat = false := by
        simp [isLow]
        omega
      rw [List.map_cons, ofUnits?_cons hhigh hlow, ih, Char.ofNat_toNat]
      rfl

/-- A string is read back. -/
theorem string?_renderText (t rest : Text) :
    string? (t.flatMap escape ++ '"' :: rest) = some (t, rest) := by
  simp [string?, units?_renderText, ofUnits?_map_toNat]

/-! ### Numbers -/

namespace NumberState

variable {s s' s'' : NumberState} {t u : Text}

theorem after?_cons (s : NumberState) (c : Char) (t : Text) :
    s.after? (c :: t) = (s.next? c).bind fun s' => s'.after? t := rfl

theorem after?_append (h : s.after? t = some s') (h' : s'.after? u = some s'') :
    s.after? (t ++ u) = some s'' := by
  rw [after?, List.foldlM_append]
  change (s.after? t).bind (fun s => s.after? u) = _
  rw [h]
  exact h'

/-- A number is read up to the character that it cannot go on with. -/
theorem rest?_append (h : s.after? t = some s') (hfinal : s'.isFinal = true) {rest : Text}
    (hends : ∀ c ∈ rest.head?, s'.next? c = none) : rest? s (t ++ rest) = some (t, rest) := by
  induction t generalizing s with
  | nil =>
      obtain rfl : s = s' := Option.some.inj h
      cases rest with
      | nil => simp [rest?, hfinal]
      | cons c rest => simp [rest?, hfinal, hends c rfl]
  | cons c t ih =>
      rw [after?_cons, Option.bind_eq_some_iff] at h
      obtain ⟨next, hnext, hrest⟩ := h
      simp [rest?, hnext, ih hrest]

theorem after?_digits (hnext : ∀ c, c.isDigit = true → s.next? c = some s)
    (ht : ∀ c ∈ t, c.isDigit = true) : s.after? t = some s := by
  induction t with
  | nil => rfl
  | cons c t ih =>
      rw [after?_cons, hnext c (ht c List.mem_cons_self)]
      exact ih fun d hd => ht d (List.mem_cons_of_mem c hd)

/-- Digits behind a state that wants one. -/
theorem after?_digits_of_ne_nil (hfirst : ∀ c, c.isDigit = true → s.next? c = some s')
    (hnext : ∀ c, c.isDigit = true → s'.next? c = some s') (hne : t ≠ [])
    (ht : ∀ c ∈ t, c.isDigit = true) : s.after? t = some s' := by
  obtain ⟨c, t, rfl⟩ := List.exists_cons_of_ne_nil hne
  rw [after?_cons, hfirst c (ht c List.mem_cons_self)]
  exact after?_digits hnext fun d hd => ht d (List.mem_cons_of_mem c hd)

theorem next?_eq_none_of_ends {c : Char} (h : c = ',' ∨ c = ']' ∨ c = '\x7d') (s : NumberState) :
    s.next? c = none := by
  rcases h with rfl | rfl | rfl <;> cases s <;> rfl

theorem newline_next? (s : NumberState) : s.next? '\n' = none := by
  cases s <;> rfl

theorem not_mem_of_after? (h : s.after? t = some s') : '\n' ∉ t := by
  induction t generalizing s with
  | nil => simp
  | cons c t ih =>
      rw [after?_cons, Option.bind_eq_some_iff] at h
      obtain ⟨next, hnext, hrest⟩ := h
      rw [List.mem_cons, not_or]
      refine ⟨?_, ih hrest⟩
      rintro rfl
      rw [newline_next?] at hnext
      cases hnext

end NumberState

/-- The text is a number by the grammar, or the word that stands for none. -/
def IsNumber (written : Text) : Prop :=
  written = "null".toList ∨
    ∃ s, NumberState.start.after? written = some s ∧ s.isFinal = true

/-- What stands behind a value does not go on with it. -/
def Ends (rest : Text) : Prop :=
  ∀ c ∈ rest.head?, c = ',' ∨ c = ']' ∨ c = '\x7d'

theorem IsNumber.ne_nil {written : Text} (h : IsNumber written) : written ≠ [] := by
  rintro rfl
  rcases h with h | ⟨s, hs, hfinal⟩
  · cases h
  · obtain rfl : NumberState.start = s := Option.some.inj hs
    cases hfinal

theorem IsNumber.not_mem {written : Text} (h : IsNumber written) : '\n' ∉ written := by
  rcases h with rfl | ⟨s, hs, -⟩
  · decide
  · exact NumberState.not_mem_of_after? hs

theorem number?_append {written rest : Text} (h : IsNumber written) (hends : Ends rest) :
    number? (written ++ rest) = some (.number written, rest) := by
  rcases h with rfl | ⟨s, hs, hfinal⟩
  · rw [number?, Text.after?_append]
  · have hrest : NumberState.rest? .start (written ++ rest) = some (written, rest) :=
      NumberState.rest?_append hs hfinal fun c hc =>
        NumberState.next?_eq_none_of_ends (hends c hc) s
    have hnull : Text.after? "null".toList (written ++ rest) = none := by
      cases hword : Text.after? "null".toList (written ++ rest) with
      | none => rfl
      | some t =>
          rw [Text.after?_eq_some_iff] at hword
          rw [hword] at hrest
          cases hrest
    rw [number?, hnull]
    simp [hrest]

/-! ### Rows -/

theorem renderItems_eq (items : List Json) :
    renderItems items = joinWith ',' (items.map render) := by
  induction items with
  | nil => rfl
  | cons item items ih =>
      cases items with
      | nil => rfl
      | cons next items => simp only [renderItems, ih, List.map_cons, joinWith]

theorem renderMembers_eq (members : List (Text × Json)) :
    renderMembers members = joinWith ',' (members.map renderMember) := by
  induction members with
  | nil => rfl
  | cons member members ih =>
      cases members with
      | nil => rfl
      | cons next members => simp only [renderMembers, ih, List.map_cons, joinWith]

section Rows

variable {α : Type} {p : List α} {ps : List (List α)}

theorem length_le_length_joinWith (sep : α) (h : p ∈ ps) : p.length ≤ (joinWith sep ps).length := by
  induction ps with
  | nil => cases h
  | cons first ps ih =>
      cases ps with
      | nil => simp_all [joinWith]
      | cons next ps =>
          simp only [joinWith, List.length_append, List.length_cons]
          rcases List.mem_cons.1 h with rfl | h
          · omega
          · have := ih h
            omega

theorem length_le_succ_length_joinWith (sep : α) (ps : List (List α)) :
    ps.length ≤ (joinWith sep ps).length + 1 := by
  induction ps with
  | nil => simp
  | cons first ps ih =>
      cases ps with
      | nil => simp
      | cons next ps =>
          simp only [joinWith, List.length_append, List.length_cons] at ih ⊢
          omega

theorem not_mem_joinWith {sep c : α} (hsep : c ≠ sep) (h : ∀ p ∈ ps, c ∉ p) :
    c ∉ joinWith sep ps := by
  induction ps with
  | nil => simp [joinWith]
  | cons first ps ih =>
      have hfirst := h first List.mem_cons_self
      have hrest := ih fun p hp => h p (List.mem_cons_of_mem first hp)
      cases ps with
      | nil => exact hfirst
      | cons next ps => simp [joinWith, hfirst, hsep, hrest]

end Rows

theorem skip_cons {c : Char} (h : isSpace c = false) (t : Text) : skip (c :: t) = c :: t := by
  simp [skip, h]

/-- The text starts with a character that is no space and does not close a row. -/
def Opens (close : Char) (t : Text) : Prop :=
  ∃ c rest, t = c :: rest ∧ isSpace c = false ∧ c ≠ close

section Rows

variable {α : Type} {close : Char} {item? : Text → Option (α × Text)} {write : α → Text}

/-- Items are read back with their commas, if each one is read back. -/
theorem items?_joinWith (hclose : close = ']' ∨ close = '\x7d') {x : α} {xs : List α} {fuel : Nat}
    (hfuel : (x :: xs).length ≤ fuel)
    (hread : ∀ y ∈ x :: xs, ∀ rest, Ends rest → item? (write y ++ rest) = some (y, rest))
    (rest : Text) :
    items? close item? fuel (joinWith ',' ((x :: xs).map write) ++ close :: rest) =
      some (x :: xs, rest) := by
  have hspace : isSpace close = false := by rcases hclose with rfl | rfl <;> rfl
  induction xs generalizing x fuel with
  | nil =>
      obtain ⟨fuel, rfl⟩ := Nat.exists_eq_succ_of_ne_zero (Nat.ne_of_gt hfuel)
      have hends : Ends (close :: rest) := by
        rintro c ⟨⟩
        exact .inr hclose
      simp [items?, joinWith, hread x List.mem_cons_self _ hends, skip_cons hspace]
  | cons next xs ih =>
      obtain ⟨fuel, rfl⟩ := Nat.exists_eq_succ_of_ne_zero (Nat.ne_of_gt (Nat.zero_lt_of_lt hfuel))
      have hends : Ends (',' :: (joinWith ',' ((next :: xs).map write) ++ close :: rest)) := by
        rintro c ⟨⟩
        exact .inl rfl
      have hcomma : ',' ≠ close := by rcases hclose with rfl | rfl <;> decide
      have hnext : items? close item? fuel
          (joinWith ',' ((next :: xs).map write) ++ close :: rest) = some (next :: xs, rest) :=
        ih (Nat.le_of_succ_le_succ hfuel) fun y hy => hread y (List.mem_cons_of_mem x hy)
      rw [List.map_cons] at hnext hends
      simp only [List.map_cons, joinWith, List.append_assoc, List.cons_append, items?,
        hread x List.mem_cons_self _ hends, Option.bind_eq_bind, Option.bind_some]
      rw [skip_cons (by rfl)]
      simp [hcomma, hnext]

/-- A row is read back, if each item is; the fuel covers its text. -/
theorem row?_joinWith (hclose : close = ']' ∨ close = '\x7d') {xs : List α} {fuel : Nat}
    (hfuel : (joinWith ',' (xs.map write)).length < fuel)
    (hopens : ∀ x ∈ xs, Opens close (write x))
    (hread : ∀ x ∈ xs, (write x).length ≤ fuel → ∀ rest, Ends rest →
      item? (write x ++ rest) = some (x, rest)) (rest : Text) :
    row? close item? fuel (joinWith ',' (xs.map write) ++ close :: rest) = some (xs, rest) := by
  have hspace : isSpace close = false := by rcases hclose with rfl | rfl <;> rfl
  have hcount : xs.length ≤ fuel := by
    have := length_le_succ_length_joinWith ',' (xs.map write)
    rw [List.length_map] at this
    omega
  have hitem : ∀ x ∈ xs, ∀ rest, Ends rest → item? (write x ++ rest) = some (x, rest) := by
    intro x hx
    have := length_le_length_joinWith ',' (List.mem_map_of_mem (f := write) hx)
    exact hread x hx (by omega)
  cases xs with
  | nil => simp [row?, joinWith, skip_cons hspace]
  | cons x xs =>
      obtain ⟨c, t, hx, hc, hne⟩ := hopens x List.mem_cons_self
      obtain ⟨more, hmore⟩ :
          ∃ more, joinWith ',' ((x :: xs).map write) ++ close :: rest = c :: more := by
        cases xs <;> simp [joinWith, hx]
      have hitems := items?_joinWith hclose hcount hitem rest
      rw [hmore] at hitems ⊢
      simp [row?, skip_cons hc, hne, hitems]

end Rows

/-! ### Values -/

/-- The value can be written: its numbers are numbers. -/
inductive WellFormed : Json → Prop
  | text (t : Text) : WellFormed (.text t)
  | number {written : Text} : IsNumber written → WellFormed (.number written)
  | list {items : List Json} : (∀ item ∈ items, WellFormed item) → WellFormed (.list items)
  | object {members : List (Text × Json)} :
      (∀ member ∈ members, WellFormed member.2) → WellFormed (.object members)

/-- A number starts with a sign, a digit or the first letter of its word. -/
theorem IsNumber.exists_cons {written : Text} (h : IsNumber written) :
    ∃ c rest, written = c :: rest ∧ (c = '-' ∨ c.isDigit = true ∨ c = 'n') := by
  obtain ⟨c, rest, rfl⟩ := List.exists_cons_of_ne_nil h.ne_nil
  refine ⟨c, rest, rfl, ?_⟩
  rcases h with h | ⟨s, hs, -⟩
  · exact .inr (.inr (List.cons.inj h).1)
  · rw [NumberState.after?_cons, Option.bind_eq_some_iff] at hs
    obtain ⟨next, hnext, -⟩ := hs
    simp only [NumberState.next?, NumberState.leading?] at hnext
    split_ifs at hnext with hsign hzero hdigit
    · exact .inl hsign
    · exact .inr (.inl (by rw [hzero]; rfl))
    · exact .inr (.inl hdigit)

/-- The first character of a number is no other token of JSON. -/
theorem not_token_of_begins {c : Char} (h : c = '-' ∨ c.isDigit = true ∨ c = 'n') :
    isSpace c = false ∧ c ≠ '"' ∧ c ≠ '[' ∧ c ≠ ']' ∧ c ≠ '\x7b' ∧ c ≠ '\x7d' := by
  rcases h with rfl | hdigit | rfl
  · decide
  · have hne : ∀ d : Char, d.isDigit = false → c ≠ d := by
      rintro d hd rfl
      rw [hdigit] at hd
      cases hd
    exact ⟨by simp [isSpace, hne ' ' rfl, hne '\t' rfl, hne '\n' rfl, hne '\r' rfl], hne _ rfl,
      hne _ rfl, hne _ rfl, hne _ rfl, hne _ rfl⟩
  · decide

theorem value?_number {c : Char} (h : c = '-' ∨ c.isDigit = true ∨ c = 'n') (fuel : Nat)
    (rest : Text) : value? (fuel + 1) (c :: rest) = number? (c :: rest) := by
  obtain ⟨hspace, hquote, hlist, -, hobject, -⟩ := not_token_of_begins h
  rw [value?, skip_cons hspace]
  split
  · next heq => exact absurd (List.cons.inj heq).1 hquote
  · next heq => exact absurd (List.cons.inj heq).1 hlist
  · next heq => exact absurd (List.cons.inj heq).1 hobject
  · rfl

theorem WellFormed.opens {v : Json} (h : v.WellFormed) {close : Char}
    (hclose : close = ']' ∨ close = '\x7d') : Opens close v.render := by
  cases h with
  | text t => exact ⟨'"', _, rfl, rfl, by rcases hclose with rfl | rfl <;> decide⟩
  | number hnumber =>
      obtain ⟨c, rest, rfl, hc⟩ := hnumber.exists_cons
      obtain ⟨hspace, -, -, hlist, -, hobject⟩ := not_token_of_begins hc
      exact ⟨c, rest, rfl, hspace, by rcases hclose with rfl | rfl <;> assumption⟩
  | list _ => exact ⟨'[', _, rfl, rfl, by rcases hclose with rfl | rfl <;> decide⟩
  | object _ => exact ⟨'\x7b', _, rfl, rfl, by rcases hclose with rfl | rfl <;> decide⟩

/-- The text of a value leaves fuel for what is inside. -/
theorem WellFormed.exists_fuel {v : Json} (h : v.WellFormed) {fuel : Nat}
    (hfuel : v.render.length ≤ fuel) : ∃ n, fuel = n + 1 := by
  obtain ⟨c, rest, hrender, -⟩ := h.opens (.inl rfl)
  rw [hrender, List.length_cons] at hfuel
  exact Nat.exists_eq_succ_of_ne_zero (by omega)

theorem renderMember_eq (name : Text) (value : Json) :
    renderMember (name, value) = '"' :: (name.flatMap escape ++ '"' :: ':' :: value.render) := by
  simp [renderMember, renderText]

theorem member?_renderMember {value : Json} {read : Text → Option (Json × Text)} {rest : Text}
    (hread : read (value.render ++ rest) = some (value, rest)) (name : Text) :
    member? read (renderMember (name, value) ++ rest) = some ((name, value), rest) := by
  have hquote : Text.after? ['"']
      ('"' :: (name.flatMap escape ++ '"' :: ':' :: (value.render ++ rest))) =
        some (name.flatMap escape ++ '"' :: ':' :: (value.render ++ rest)) :=
    Text.after?_append ['"'] _
  have hcolon : Text.after? [':'] (':' :: (value.render ++ rest)) = some (value.render ++ rest) :=
    Text.after?_append [':'] _
  rw [renderMember_eq, List.cons_append, List.append_assoc, List.cons_append, List.cons_append,
    member?, skip_cons (by rfl), hquote]
  simp [string?_renderText, skip_cons (show isSpace ':' = false from rfl), hcolon, hread]

/-- A value is read back from its text, whatever ends it. -/
theorem value?_render {v : Json} (h : v.WellFormed) :
    ∀ fuel rest, v.render.length ≤ fuel → Ends rest →
      value? fuel (v.render ++ rest) = some (v, rest) := by
  induction h with
  | text t =>
      intro fuel rest hfuel _
      obtain ⟨fuel, rfl⟩ := (WellFormed.text t).exists_fuel hfuel
      simp only [render, renderText, List.cons_append, List.append_assoc, List.nil_append]
      rw [value?, skip_cons (by rfl)]
      simp [string?_renderText]
  | number hnumber =>
      intro fuel rest hfuel hends
      obtain ⟨fuel, rfl⟩ := (WellFormed.number hnumber).exists_fuel hfuel
      obtain ⟨c, more, rfl, hc⟩ := hnumber.exists_cons
      have hread := number?_append hnumber hends
      rw [render, List.cons_append, value?_number hc, ← List.cons_append, hread]
  | @list items hitems ih =>
      intro fuel rest hfuel _
      obtain ⟨fuel, rfl⟩ := (WellFormed.list hitems).exists_fuel hfuel
      rw [render, renderItems_eq, List.length_append, List.length_cons, List.length_singleton]
        at hfuel
      have hrow : row? ']' (value? fuel) fuel (joinWith ',' (items.map render) ++ ']' :: rest) =
          some (items, rest) :=
        row?_joinWith (.inl rfl) (by omega)
          (fun item hitem => (hitems item hitem).opens (.inl rfl))
          (fun item hitem hle rest' => ih item hitem fuel rest' hle) rest
      rw [render, renderItems_eq, List.cons_append, List.cons_append, List.append_assoc,
        List.singleton_append, value?, skip_cons (by rfl)]
      simp [hrow]
  | @object members hmembers ih =>
      intro fuel rest hfuel _
      obtain ⟨fuel, rfl⟩ := (WellFormed.object hmembers).exists_fuel hfuel
      rw [render, renderMembers_eq, List.length_append, List.length_cons, List.length_singleton]
        at hfuel
      have hmember : ∀ member ∈ members, (renderMember member).length ≤ fuel → ∀ rest, Ends rest →
          member? (value? fuel) (renderMember member ++ rest) = some (member, rest) := by
        intro member hmember hle rest hends
        have hvalue : member.2.render.length ≤ fuel := by
          rw [renderMember_eq member.1 member.2] at hle
          simp at hle
          omega
        exact member?_renderMember (ih member hmember fuel rest hvalue hends) member.1
      have hrow : row? '\x7d' (member? (value? fuel)) fuel
          (joinWith ',' (members.map renderMember) ++ '\x7d' :: rest) = some (members, rest) :=
        row?_joinWith (.inr rfl) (by omega)
          (fun member _ => ⟨'"', _, renderMember_eq member.1 member.2, rfl, by decide⟩) hmember rest
      rw [render, renderMembers_eq, List.cons_append, List.cons_append, List.append_assoc,
        List.singleton_append, value?, skip_cons (by rfl)]
      simp [hrow]

/-- What is written is read back. -/
theorem decode?_render {v : Json} (h : v.WellFormed) : decode? v.render = some v := by
  have hread := value?_render h v.render.length [] (Nat.le_refl _) (by rintro c ⟨⟩)
  rw [List.append_nil] at hread
  rw [decode?, hread]
  rfl

/-! ### One line for a value -/

theorem not_mem_escape (c : Char) : '\n' ∉ escape c := by
  unfold escape
  split_ifs with h₁ h₂ h₃ h₄ h₅ h₆ h₇ h₈
  · decide
  · decide
  · decide
  · decide
  · decide
  · decide
  · decide
  · simp [hexDigit]
  · simpa using Ne.symm h₅

theorem not_mem_renderText (t : Text) : '\n' ∉ renderText t := by
  simp [renderText, not_mem_escape]

/-- No value needs more than one line. -/
theorem WellFormed.not_mem_render {v : Json} (h : v.WellFormed) : '\n' ∉ v.render := by
  induction h with
  | text t => exact not_mem_renderText t
  | number hnumber => exact hnumber.not_mem
  | @list items _ ih =>
      rw [render, renderItems_eq]
      have hitems : '\n' ∉ joinWith ',' (items.map render) :=
        not_mem_joinWith (by decide) (List.forall_mem_map.2 ih)
      simp [hitems]
  | @object members _ ih =>
      rw [render, renderMembers_eq]
      have hmember : ∀ member ∈ members, '\n' ∉ renderMember member := by
        rintro ⟨name, value⟩ hmember
        simp [renderMember, not_mem_renderText, ih _ hmember]
      have hmembers : '\n' ∉ joinWith ',' (members.map renderMember) :=
        not_mem_joinWith (by decide) (List.forall_mem_map.2 hmember)
      simp [hmembers]

end Conformance.Json
