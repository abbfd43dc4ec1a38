import SolInterface.Proofs.Occurrences

/-!
Readers that look no further than what they find. A find stays one whatever text follows it, unless
another text lets the reader find something longer. Where no find touches some part of a text, that
part may therefore be replaced: the same is found before it and behind it.
-/
namespace SolInterface.Text

variable {α β : Type}

/-- Where the reader finds exactly `m`, it still finds something if another text follows: `m` with
the same answer, or something longer. -/
def Persists (read : Text → Option (α × Text)) (m : Text) : Prop :=
  ∀ x y a, read (m ++ x) = some (a, x) →
    ∃ b z rest, y = z ++ rest ∧ read (m ++ y) = some (b, rest) ∧ (z = [] → b = a)

/-- What is found is a part of the text with some character in it that is no plain one, and
persists. -/
structure Local (read : Text → Option (α × Text)) : Prop where
  split : ∀ {t a rest}, read t = some (a, rest) →
    ∃ m : Text, t = m ++ rest ∧ ∃ c ∈ m, isPlain c = false
  persists : ∀ m, Persists read m

namespace Local

variable {read : Text → Option (α × Text)} {p x y : Text} {a b : α}

theorem ne_nil_of_mark {m : Text} (h : ∃ c ∈ m, isPlain c = false) : m ≠ [] := by
  obtain ⟨c, hc, -⟩ := h
  exact List.ne_nil_of_mem hc

theorem read_nil (h : Local read) : read [] = none := by
  cases hr : read [] with
  | none => rfl
  | some found =>
    obtain ⟨m, hm, hmark⟩ := h.split hr
    exact absurd (List.append_eq_nil_iff.1 hm.symm).1 (ne_nil_of_mark hmark)

/-- A find that lies in `p` leaves at least some find where another text follows `p`. -/
theorem found_of_within (h : Local read) {more : Text} (hx : read (p ++ x) = some (a, more ++ x))
    (y : Text) : ∃ b rest, read (p ++ y) = some (b, rest) ∧ rest.length ≤ (more ++ y).length ∧
      (rest = more ++ y → b = a) := by
  obtain ⟨m, hm, -⟩ := h.split hx
  obtain rfl : p = m ++ more := by
    rw [← List.append_assoc] at hm
    exact List.append_cancel_right hm
  rw [List.append_assoc] at hx
  obtain ⟨b, z, rest, hz, hread, hsame⟩ := h.persists m _ (more ++ y) a hx
  refine ⟨b, rest, by rw [List.append_assoc, hread], by simp [hz], fun hrest => hsame ?_⟩
  rw [hrest] at hz
  exact List.self_eq_append_left.1 hz

/-- Finds that lie in `p` agree. -/
theorem agree (h : Local read) {more more' : Text} (hx : read (p ++ x) = some (a, more ++ x))
    (hy : read (p ++ y) = some (b, more' ++ y)) : more' = more ∧ b = a := by
  obtain ⟨b', rest, hread, hle, hsame⟩ := h.found_of_within hx y
  obtain ⟨a', rest', hread', hle', -⟩ := h.found_of_within hy x
  obtain ⟨rfl, rfl⟩ := Prod.mk.inj (Option.some.inj (hread.symm.trans hy))
  obtain ⟨rfl, rfl⟩ := Prod.mk.inj (Option.some.inj (hread'.symm.trans hx))
  simp only [List.length_append, Nat.add_le_add_iff_right] at hle hle'
  obtain ⟨m, hm, -⟩ := h.split hx
  obtain ⟨m', hm', -⟩ := h.split hy
  rw [← List.append_assoc] at hm hm'
  -- Both are what is left of `p`, so they are equal once they are equally long.
  have hlength : more'.length = more.length := Nat.le_antisymm hle hle'
  have hmore : more' = more :=
    (List.append_inj' ((List.append_cancel_right hm').symm.trans (List.append_cancel_right hm))
      hlength).2
  exact ⟨hmore, hsame (by rw [hmore])⟩

/-- If what is found at `p` lies in `p`, whichever of two texts follows, the same is found in both,
or nothing. -/
theorem transfer (h : Local read)
    (hx : ∀ a rest, read (p ++ x) = some (a, rest) → ∃ more, rest = more ++ x)
    (hy : ∀ a rest, read (p ++ y) = some (a, rest) → ∃ more, rest = more ++ y) :
    (read (p ++ x) = none ∧ read (p ++ y) = none) ∨
      ∃ a m more, p = m ++ more ∧ read (p ++ x) = some (a, more ++ x) ∧
        read (p ++ y) = some (a, more ++ y) := by
  cases hfound : read (p ++ x) with
  | none =>
    cases hfound' : read (p ++ y) with
    | none => exact Or.inl ⟨rfl, rfl⟩
    | some found =>
      exfalso
      obtain ⟨more, hmore⟩ := hy _ _ hfound'
      obtain ⟨_, _, hback, -⟩ := h.found_of_within (hfound'.trans (by rw [← hmore])) x
      rw [hfound] at hback
      cases hback
  | some found =>
    obtain ⟨a, rest⟩ := found
    obtain ⟨more, rfl⟩ := hx _ _ hfound
    obtain ⟨a', rest', hfound', -⟩ := h.found_of_within hfound y
    obtain ⟨more', rfl⟩ := hy _ _ hfound'
    obtain ⟨rfl, rfl⟩ := h.agree hfound hfound'
    obtain ⟨m, hm, -⟩ := h.split hfound
    exact Or.inr ⟨a', m, more', List.append_cancel_right (hm.trans (List.append_assoc _ _ _).symm),
      rfl, hfound'⟩

end Local

/-! Readers that are put together from others. -/

theorem Persists.orElse {p q : Text → Option (α × Text)} {m : Text} (hp : Local p)
    (hq : Persists q m) : Persists (fun t => p t <|> q t) m := by
  intro x y a h
  simp only [Option.orElse_eq_orElse, Option.orElse_eq_or] at h ⊢
  rcases Option.or_eq_some_iff.1 h with h | ⟨hnone, h⟩
  · obtain ⟨b, z, rest, hy, hread, hsame⟩ := hp.persists m x y a h
    exact ⟨b, z, rest, hy, by rw [hread, Option.some_or], hsame⟩
  · cases hpy : p (m ++ y) with
    | none =>
      obtain ⟨b, z, rest, hy, hread, hsame⟩ := hq x y a h
      exact ⟨b, z, rest, hy, by rw [hread, Option.none_or], hsame⟩
    | some found =>
      obtain ⟨b, rest⟩ := found
      obtain ⟨m', hm', -⟩ := hp.split hpy
      -- Nothing in `m` itself was found by `p`, so what it finds now ends behind `m`.
      rcases List.append_eq_append_iff.1 hm' with ⟨z, rfl, hz⟩ | ⟨z, rfl, rfl⟩
      · refine ⟨b, z, rest, hz, by rw [Option.some_or], ?_⟩
        rintro rfl
        obtain ⟨c, _, more, -, hfound, -⟩ := hp.persists m y x b (by rw [hpy, hz, List.nil_append])
        rw [hnone] at hfound
        cases hfound
      · rw [List.append_assoc] at hpy hnone
        obtain ⟨c, _, more, -, hfound, -⟩ := hp.persists m' _ (z ++ x) b hpy
        rw [hnone] at hfound
        cases hfound

namespace Local

theorem none : Local fun _ => (Option.none : Option (α × Text)) where
  split h := nomatch h
  persists _ _ _ _ h := nomatch h

theorem orElse {p q : Text → Option (α × Text)} (hp : Local p) (hq : Local q) :
    Local fun t => p t <|> q t where
  split {t a rest} h := by
    simp only [Option.orElse_eq_orElse, Option.orElse_eq_or] at h
    rcases Option.or_eq_some_iff.1 h with h | ⟨-, h⟩
    · exact hp.split h
    · exact hq.split h
  persists m := Persists.orElse hp (hq.persists m)

theorem map {p : Text → Option (α × Text)} (hp : Local p) (f : α → β) :
    Local fun t => (p t).map fun found => (f found.1, found.2) where
  split {t b rest} h := by
    obtain ⟨⟨a, more⟩, hread, hb⟩ := Option.map_eq_some_iff.1 h
    obtain ⟨-, rfl⟩ := Prod.mk.inj hb
    exact hp.split hread
  persists m x y b h := by
    obtain ⟨⟨a, more⟩, hread, hb⟩ := Option.map_eq_some_iff.1 h
    obtain ⟨rfl, rfl⟩ := Prod.mk.inj hb
    obtain ⟨a', z, rest, hy, hread', hsame⟩ := hp.persists m more y a hread
    exact ⟨f a', z, rest, hy, by simp [hread'], fun hz => by rw [hsame hz]⟩

end Local

/-- A first step of a reader: what it takes and answers is the same where the text that is left goes
on with the same character. -/
def Steady (step : Text → Option (β × Text)) : Prop :=
  ∀ {t b r}, step t = some (b, r) →
    ∃ m, t = m ++ r ∧ ∀ r' : Text, r'.head? = r.head? → step (m ++ r') = some (b, r')

theorem Local.after_step {step : Text → Option (β × Text)} {q : β → Text → Option (α × Text)}
    (hs : Steady step) (hq : ∀ b, Local (q b)) :
    Local fun t => (step t).bind fun taken => q taken.1 taken.2 where
  split {t a rest} h := by
    obtain ⟨⟨b, r⟩, hstep, hread⟩ := Option.bind_eq_some_iff.1 h
    obtain ⟨m, rfl, -⟩ := hs hstep
    obtain ⟨m', rfl, c, hc, hmark⟩ := (hq b).split hread
    exact ⟨m ++ m', by rw [List.append_assoc], c, List.mem_append_right m hc, hmark⟩
  persists m x y a h := by
    obtain ⟨⟨b, r⟩, hstep, hread⟩ := Option.bind_eq_some_iff.1 h
    obtain ⟨lead, hlead, hsteady⟩ := hs hstep
    obtain ⟨m', rfl, hmark⟩ := (hq b).split hread
    obtain rfl : m = lead ++ m' := by
      rw [← List.append_assoc] at hlead
      exact List.append_cancel_right hlead
    obtain ⟨a', z, rest, hy, hread', hsame⟩ := (hq b).persists m' x y a hread
    refine ⟨a', z, rest, hy, ?_, hsame⟩
    have hhead : (m' ++ y).head? = (m' ++ x).head? := by
      cases m' with
      | nil => exact absurd rfl (Local.ne_nil_of_mark hmark)
      | cons c m' => rfl
    simp only [List.append_assoc, hsteady _ hhead, Option.bind_some, hread']

theorem stops_of_head? {p : Char → Bool} {t u : Text} (h : u.head? = t.head?) (ht : Stops p t) :
    Stops p u := by
  unfold Stops
  rw [h]
  exact ht

namespace Local

variable {q : Text → Option (α × Text)} {qs : β → Text → Option (α × Text)}

theorem after (lead : Text) (hq : Local q) : Local fun t => (after? lead t).bind q := by
  have hs : Steady fun t => (after? lead t).map fun r => ((), r) := by
    intro t b r h
    obtain ⟨r, hr, he⟩ := Option.map_eq_some_iff.1 h
    obtain ⟨-, rfl⟩ := Prod.mk.inj he
    exact ⟨lead, after?_eq_some.1 hr, fun r' _ => by simp⟩
  simpa only [Option.bind_map, Function.comp_def] using after_step hs fun _ => hq

theorem blanks (hq : Local q) : Local fun t => (blanks? t).bind q := by
  have hs : Steady fun t => (blanks? t).map fun r => ((), r) := by
    intro t b r h
    obtain ⟨r, hr, he⟩ := Option.map_eq_some_iff.1 h
    obtain ⟨-, rfl⟩ := Prod.mk.inj he
    obtain ⟨gap, rfl, hne, hblank, hstop⟩ := blanks?_eq_some.1 hr
    refine ⟨gap, rfl, fun r' hhead => ?_⟩
    simp [blanks?_append hne hblank (stops_of_head? hhead hstop)]
  simpa only [Option.bind_map, Function.comp_def] using after_step hs fun _ => hq

theorem skip (hq : Local q) : Local fun t => q (skipBlanks t) := by
  have hs : Steady fun t => some ((), skipBlanks t) := by
    intro t b r h
    obtain ⟨-, rfl⟩ := Prod.mk.inj (Option.some.inj h)
    obtain ⟨gap, hgap, hblank⟩ := skipBlanks_split t
    refine ⟨gap, hgap, fun r' hhead => ?_⟩
    have hstop : Stops isBlank r' := stops_of_head? hhead (stops_dropWhile _ _)
    simp [skipBlanks_append hblank, skipBlanks_of_stops hstop]
  exact after_step hs fun _ => hq

theorem word {qs : Text → Text → Option (α × Text)} (hq : ∀ w, Local (qs w)) :
    Local fun t => (word? t).bind fun taken => qs taken.1 taken.2 := by
  refine after_step (fun {t w r} h => ?_) hq
  obtain ⟨rfl, hne, hw, hstop⟩ := word?_eq_some.1 h
  exact ⟨w, rfl, fun r' hhead => word?_append hne hw (stops_of_head? hhead hstop)⟩

theorem parenthesised {qs : Text → Text → Option (α × Text)} (hq : ∀ body, Local (qs body)) :
    Local fun t => (parenthesised? t).bind fun taken => qs taken.1 taken.2 := by
  refine after_step (fun {t body r} h => ?_) hq
  obtain ⟨rfl, hbody⟩ := parenthesised?_eq_some.1 h
  exact ⟨'(' :: (body ++ [')']), by simp, fun r' _ => by simp [parenthesised?_append r' hbody]⟩

theorem closing {c : Char} (hc : isPlain c = false) (a : α) :
    Local fun t => (after? [c] t).bind fun rest => some (a, rest) where
  split {t b rest} h := by
    obtain ⟨more, hmore, hb⟩ := Option.bind_eq_some_iff.1 h
    obtain ⟨-, rfl⟩ := Prod.mk.inj (Option.some.inj hb)
    exact ⟨[c], after?_eq_some.1 hmore, c, by simp, hc⟩
  persists m x y b h := by
    obtain ⟨more, hmore, hb⟩ := Option.bind_eq_some_iff.1 h
    obtain ⟨rfl, rfl⟩ := Prod.mk.inj (Option.some.inj hb)
    obtain rfl : m = [c] := List.append_cancel_right (after?_eq_some.1 hmore)
    exact ⟨a, [], y, rfl, by simp only [after?_append, Option.bind_some], fun _ => rfl⟩

theorem notMem_of_isPlain {options : List (Text × β)}
    (ho : ∀ o ∈ options, ∀ c ∈ o.1, isPlain c = true) {c : Char} (hc : isPlain c = false) :
    ∀ o ∈ options, c ∉ o.1 := by
  intro o hmem hin
  rw [ho o hmem c hin] at hc
  cases hc

/-- A keyword that is looked for first: what is found behind it bounds the search for it. -/
theorem keyword {options : List (Text × β)} (ho : ∀ o ∈ options, ∀ c ∈ o.1, isPlain c = true)
    (hq : ∀ b, Local (qs b)) :
    Local fun t => (oneOf? options t).bind fun taken => qs taken.1 taken.2 where
  split {t a rest} h := by
    obtain ⟨⟨b, r⟩, hkey, hread⟩ := Option.bind_eq_some_iff.1 h
    obtain ⟨key, -, rfl⟩ := oneOf?_eq_some hkey
    obtain ⟨m, rfl, c, hc, hmark⟩ := (hq b).split hread
    exact ⟨key ++ m, by rw [List.append_assoc], c, List.mem_append_right key hc, hmark⟩
  persists m x y a h := by
    obtain ⟨⟨b, r⟩, hkey, hread⟩ := Option.bind_eq_some_iff.1 h
    obtain ⟨key, -, hm⟩ := oneOf?_eq_some hkey
    obtain ⟨m', rfl, c, hc, hmark⟩ := (hq b).split hread
    obtain ⟨a', z, rest, hy, hread', hsame⟩ := (hq b).persists m' x y a hread
    refine ⟨a', z, rest, hy, ?_, hsame⟩
    have hfree := notMem_of_isPlain ho hmark
    obtain ⟨u, v, rfl⟩ := List.append_of_mem hc
    obtain rfl : m = key ++ (u ++ c :: v) := by
      rw [← List.append_assoc] at hm
      exact List.append_cancel_right hm
    have hshape : ∀ t : Text, key ++ (u ++ c :: v) ++ t = (key ++ u) ++ c :: (v ++ t) := by simp
    simp only [hshape, oneOf?_append_cons hfree] at hkey ⊢
    obtain ⟨⟨b', r'⟩, hkey', hfound⟩ := Option.map_eq_some_iff.1 hkey
    obtain ⟨rfl, hr⟩ := Prod.mk.inj hfound
    obtain rfl : r' = u := List.append_cancel_right (hr.trans (by simp))
    simpa [hkey'] using hread'

/-- A keyword after which nothing else is tried. -/
theorem commit {options : List (Text × β)} (ho : ∀ o ∈ options, ∀ c ∈ o.1, isPlain c = true)
    (hqs : ∀ b, Local (qs b)) (hq : Local q) :
    Local fun t => (oneOf? options t).elim (q t) fun found => qs found.1 found.2 where
  split {t a rest} h := by
    cases hkey : oneOf? options t with
    | none =>
      simp only [hkey, Option.elim_none] at h
      exact hq.split h
    | some found =>
      simp only [hkey, Option.elim_some] at h
      exact (keyword ho hqs).split (by simpa only [hkey, Option.bind_some] using h)
  persists m x y a h := by
    cases hkey : oneOf? options (m ++ x) with
    | none =>
      simp only [hkey, Option.elim_none] at h
      obtain ⟨b, z, rest, hy, hread, hsame⟩ := hq.persists m x y a h
      obtain ⟨m', hm, c, hc, hmark⟩ := hq.split h
      obtain rfl : m = m' := List.append_cancel_right hm
      have hfree := notMem_of_isPlain ho hmark
      obtain ⟨u, v, rfl⟩ := List.append_of_mem hc
      -- The character that is no plain one bounds the search, whatever follows.
      have hbound : ∀ t : Text, oneOf? options (u ++ c :: v ++ t) =
          (oneOf? options u).map fun found => (found.1, found.2 ++ c :: (v ++ t)) := fun t => by
        rw [List.append_assoc, List.cons_append, oneOf?_append_cons hfree]
      rw [hbound, Option.map_eq_none_iff] at hkey
      refine ⟨b, z, rest, hy, ?_, hsame⟩
      simp only [hbound, hkey, Option.map_none, Option.elim_none, hread]
    | some found =>
      simp only [hkey, Option.elim_some] at h
      obtain ⟨b, z, rest, hy, hread, hsame⟩ := (keyword ho hqs).persists m x y a
        (by simpa only [hkey, Option.bind_some] using h)
      obtain ⟨found', hkey', hread'⟩ := Option.bind_eq_some_iff.1 hread
      exact ⟨b, z, rest, hy, by simp only [hkey', Option.elim_some, hread'], hsame⟩

end Local

/-! The first find. -/

/-- A find with its place: the position of its first character, and the one after its last. -/
structure Finding (α : Type) where
  start : Nat
  stop : Nat
  value : α

def firstFinding? (read : Text → Option (α × Text)) : Nat → Text → Option (Finding α)
  | _, [] => none
  | n, c :: t =>
    match read (c :: t) with
    | some (a, rest) => some ⟨n, n + (t.length + 1 - rest.length), a⟩
    | none => firstFinding? read (n + 1) t

def Finding.Avoids (f : Finding α) (i j : Nat) : Prop := f.stop ≤ i ∨ j ≤ f.start

instance (f : Finding α) (i j : Nat) : Decidable (f.Avoids i j) :=
  inferInstanceAs (Decidable (_ ∨ _))

section FirstFinding

variable {find : Text → Option (α × Text)}

theorem firstMatch_eq_firstFinding? (hfind : Local find) {read : Text → Option α}
    (hread : ∀ t, read t = (find t).map Prod.fst) (n : Nat) (t : Text) :
    firstMatch read t = (firstFinding? find n t).map Finding.value := by
  induction t generalizing n with
  | nil => rw [firstMatch, hread, hfind.read_nil, firstFinding?, Option.map_none, Option.map_none]
  | cons c t ih =>
    rw [firstMatch, firstFinding?, hread]
    cases find (c :: t) with
    | none => exact ih (n + 1)
    | some found => rfl

theorem value_firstFinding? (n k : Nat) (t : Text) :
    (firstFinding? find n t).map Finding.value = (firstFinding? find k t).map Finding.value := by
  induction t generalizing n k with
  | nil => rfl
  | cons c t ih =>
    rw [firstFinding?, firstFinding?]
    cases find (c :: t) with
    | none => exact ih (n + 1) (k + 1)
    | some found => rfl

/-- Where nothing starts in `u`, the search may begin behind it. -/
theorem firstFinding?_append {u q : Text} {n : Nat}
    (h : ∀ f ∈ firstFinding? find n (u ++ q), n + u.length ≤ f.start) :
    firstFinding? find n (u ++ q) = firstFinding? find (n + u.length) q := by
  induction u generalizing n with
  | nil => rfl
  | cons c u ih =>
    rw [List.cons_append, firstFinding?] at h ⊢
    cases hfound : find (c :: (u ++ q)) with
    | none =>
      have hshift : n + (c :: u).length = n + 1 + u.length := by
        rw [List.length_cons]
        omega
      simp only [hfound, hshift] at h ⊢
      exact ih h
    | some found =>
      simp only [hfound, Option.mem_some_iff, forall_eq', List.length_cons] at h
      omega

theorem start_of_mem_firstFinding? (hfind : Local find) {n : Nat} {t : Text} {f : Finding α}
    (h : f ∈ firstFinding? find n t) : n ≤ f.start ∧ f.start < f.stop := by
  induction t generalizing n with
  | nil => cases h
  | cons c t ih =>
    rw [firstFinding?] at h
    cases hfound : find (c :: t) with
    | none =>
      simp only [hfound] at h
      have hstart := ih h
      omega
    | some found =>
      obtain ⟨m, hm, hmark⟩ := hfind.split hfound
      have hlength : t.length + 1 = m.length + found.2.length := by
        rw [← List.length_append, ← hm, List.length_cons]
      have hpos := List.length_pos_iff.2 (Local.ne_nil_of_mark hmark)
      simp only [hfound, Option.mem_some_iff] at h
      subst h
      dsimp only
      omega

/-- A find at the start of the text that avoids what follows `p` lies in `p`. -/
theorem within_of_avoids (hfind : Local find) {c : Char} {p u q rest : Text} {a : α} {n : Nat}
    (h : ∀ f ∈ firstFinding? find n (c :: p ++ (u ++ q)),
      f.Avoids (n + (c :: p).length) (n + (c :: p).length + u.length))
    (hfound : find (c :: p ++ (u ++ q)) = some (a, rest)) : ∃ more, rest = more ++ (u ++ q) := by
  have havoids : Finding.Avoids ⟨n, n + ((p ++ (u ++ q)).length + 1 - rest.length), a⟩
      (n + (c :: p).length) (n + (c :: p).length + u.length) := by
    refine h _ ?_
    rw [List.cons_append] at hfound ⊢
    rw [firstFinding?, hfound]
    exact Option.mem_some_self _
  obtain ⟨m, hm, -⟩ := hfind.split hfound
  rcases List.append_eq_append_iff.1 hm with ⟨z, rfl, hz⟩ | ⟨z, -, rfl⟩
  · have hlength : (u ++ q).length = z.length + rest.length := by rw [hz, List.length_append]
    simp only [Finding.Avoids, List.length_append, List.length_cons] at havoids hlength
    obtain rfl : z = [] := List.length_eq_zero_iff.1 (by omega)
    exact ⟨[], hz.symm⟩
  · exact ⟨z, rfl⟩

/-- If the first find avoids a part of the text before and after the part is replaced, the answer
stays the same. -/
theorem firstFinding?_replace (hfind : Local find) {p u v q : Text} {n : Nat}
    (hu : ∀ f ∈ firstFinding? find n (p ++ (u ++ q)),
      f.Avoids (n + p.length) (n + p.length + u.length))
    (hv : ∀ f ∈ firstFinding? find n (p ++ (v ++ q)),
      f.Avoids (n + p.length) (n + p.length + v.length)) :
    (firstFinding? find n (p ++ (u ++ q))).map Finding.value =
      (firstFinding? find n (p ++ (v ++ q))).map Finding.value := by
  induction p generalizing n with
  | nil =>
    have hbehind : ∀ w : Text, (∀ f ∈ firstFinding? find n (w ++ q), f.Avoids n (n + w.length)) →
        firstFinding? find n (w ++ q) = firstFinding? find (n + w.length) q := by
      intro w hw
      refine firstFinding?_append fun f hf => ?_
      have hstart := start_of_mem_firstFinding? hfind hf
      rcases hw f hf with hstop | hlate
      · omega
      · exact hlate
    rw [List.nil_append, hbehind u hu, List.nil_append, hbehind v hv]
    exact value_firstFinding? _ _ q
  | cons c p ih =>
    rcases hfind.transfer (fun _ _ => within_of_avoids hfind hu)
      (fun _ _ => within_of_avoids hfind hv) with ⟨hnone, hnone'⟩ | ⟨a, _, more, -, hfound, hfound'⟩
    · have hshift : n + (c :: p).length = n + 1 + p.length := by
        rw [List.length_cons]
        omega
      simp only [List.cons_append] at hnone hnone' hu hv ⊢
      simp only [firstFinding?, hnone, hnone', hshift] at hu hv ⊢
      exact ih hu hv
    · simp only [List.cons_append] at hfound hfound' ⊢
      simp only [firstFinding?, hfound, hfound', Option.map_some]

theorem firstMatch_replace (hfind : Local find) {read : Text → Option α}
    (hread : ∀ t, read t = (find t).map Prod.fst) {p u v q : Text}
    (hu : ∀ f ∈ firstFinding? find 0 (p ++ (u ++ q)), f.Avoids p.length (p.length + u.length))
    (hv : ∀ f ∈ firstFinding? find 0 (p ++ (v ++ q)), f.Avoids p.length (p.length + v.length)) :
    firstMatch read (p ++ (u ++ q)) = firstMatch read (p ++ (v ++ q)) := by
  rw [firstMatch_eq_firstFinding? hfind hread 0, firstMatch_eq_firstFinding? hfind hread 0]
  exact firstFinding?_replace hfind (by simpa using hu) (by simpa using hv)

end FirstFinding

/-! Successive finds. -/

def Occurrence.last (o : Occurrence α) : Nat := o.line + o.text.count '\n'

theorem Occurrence.last_mk (n : Nat) (m : Text) (a : α) :
    Occurrence.last ⟨n, m, a⟩ = n + m.count '\n' := rfl

section Occurrences

variable {read : Bool → Text → Option (α × Text)}

/-- A find covers what the reader took. -/
theorem occurrencesFrom_some {b : Bool} {n : Nat} {c : Char} {t m rest : Text} {a : α}
    (h : read b (c :: t) = some (a, rest)) (hm : c :: t = m ++ rest) :
    occurrencesFrom read 0 b n (c :: t) = ⟨n, m, a⟩ ::
      occurrencesFrom read (m.length - 1) (isWord c) (if c = '\n' then n + 1 else n) t := by
  have hused : t.length + 1 - rest.length = m.length := by
    have hlength := congrArg List.length hm
    rw [List.length_cons, List.length_append] at hlength
    omega
  have htake : (c :: t).take m.length = m := by rw [hm, List.take_left]
  rw [occurrencesFrom, h]
  simp only [hused, htake]

/-- Before the next line feed there is only `u`. -/
theorem length_le_of_notMem {u q m rest : Text} (h : u ++ q = m ++ rest)
    (hq : ∀ c ∈ q.head?, c = '\n') (hm : '\n' ∉ m) : m.length ≤ u.length := by
  rcases List.append_eq_append_iff.1 h with ⟨z, rfl, hz⟩ | ⟨z, rfl, -⟩
  · cases z with
    | nil => simp
    | cons d z =>
      obtain rfl : d = '\n' := hq d (by rw [hz]; rfl)
      simp at hm
  · simp

theorem notMem_of_last {b : Bool} {n : Nat} {c : Char} {t m rest : Text} {a : α}
    (h : ∀ o ∈ occurrencesFrom read 0 b n (c :: t), o.line = n → o.last = n)
    (hfound : read b (c :: t) = some (a, rest)) (hm : c :: t = m ++ rest) : '\n' ∉ m := by
  have hlast : Occurrence.last ⟨n, m, a⟩ = n := by
    refine h _ ?_ rfl
    rw [occurrencesFrom_some hfound hm]
    exact List.mem_cons_self
  rw [Occurrence.last_mk] at hlast
  exact List.count_eq_zero.1 (by omega)

/-- The finds on one line end there, so the search goes on at the start of the next line. -/
theorem filter_occurrencesFrom_line (hread : ∀ b, Local (read b)) {u q : Text} (hu : '\n' ∉ u)
    (hq : ∀ c ∈ q.head?, c = '\n') {skip n : Nat} {b : Bool} (hskip : skip ≤ u.length)
    (h : ∀ o ∈ occurrencesFrom read skip b n (u ++ q), o.line = n → o.last = n) :
    (occurrencesFrom read skip b n (u ++ q)).filter (fun o => o.line ≠ n) =
      occurrencesFrom read 0 false (n + 1) q.tail := by
  induction u generalizing skip b with
  | nil =>
    obtain rfl : skip = 0 := Nat.le_zero.1 hskip
    rw [List.nil_append] at h ⊢
    cases q with
    | nil => rfl
    | cons c q =>
      obtain rfl : c = '\n' := hq c rfl
      cases hfound : read b ('\n' :: q) with
      | none =>
        rw [occurrencesFrom_none hfound]
        refine List.filter_eq_self.2 fun o ho => ?_
        have hline := (line_of_mem_occurrencesFrom ho).1
        simp only [if_true] at hline
        simp only [ne_eq, decide_eq_true_eq]
        omega
      | some found =>
        obtain ⟨m, hm, hmark⟩ := (hread b).split hfound
        have hlength : m.length ≤ ([] : Text).length :=
          length_le_of_notMem hm hq (notMem_of_last h hfound hm)
        exact absurd (List.length_eq_zero_iff.1 (Nat.le_zero.1 hlength)) (Local.ne_nil_of_mark hmark)
  | cons c u ih =>
    obtain ⟨hc, hu⟩ := not_or.1 (mt List.mem_cons.2 hu)
    rw [List.cons_append] at h ⊢
    cases skip with
    | succ skip =>
      rw [occurrencesFrom, if_neg (Ne.symm hc)] at h ⊢
      exact ih hu (Nat.le_of_succ_le_succ hskip) h
    | zero =>
      cases hfound : read b (c :: (u ++ q)) with
      | none =>
        rw [occurrencesFrom_none hfound, if_neg (Ne.symm hc)] at h ⊢
        exact ih hu (Nat.zero_le _) h
      | some found =>
        obtain ⟨m, hm, -⟩ := (hread b).split hfound
        have hlength : m.length ≤ (c :: u).length :=
          length_le_of_notMem hm hq (notMem_of_last h hfound hm)
        rw [occurrencesFrom_some hfound hm, if_neg (Ne.symm hc)] at h ⊢
        rw [List.filter_cons_of_neg (by simp)]
        exact ih hu (Nat.sub_le_of_le_add hlength) fun o ho => h o (List.mem_cons_of_mem _ ho)

/-- A find that starts in `p`, which ends a line, and does not go on to the line behind it. -/
theorem within_of_last (hread : ∀ b, Local (read b)) {c : Char} {p t rest : Text} {a : α} {b : Bool}
    {n : Nat} (hp : ∀ d ∈ (c :: p).getLast?, d = '\n')
    (h : ∀ o ∈ occurrencesFrom read 0 b n (c :: p ++ t), o.line ≤ n + (c :: p).count '\n' →
      n + (c :: p).count '\n' ≤ o.last → o.last = o.line)
    (hfound : read b (c :: p ++ t) = some (a, rest)) : ∃ more, rest = more ++ t := by
  obtain ⟨m, hm, -⟩ := (hread b).split hfound
  rcases List.append_eq_append_iff.1 hm with ⟨z, rfl, -⟩ | ⟨z, -, rfl⟩
  · exfalso
    have hlast : Occurrence.last ⟨n, c :: p ++ z, a⟩ = n := by
      refine h _ ?_ (Nat.le_add_right _ _) ?_
      · rw [List.cons_append] at hfound ⊢
        rw [occurrencesFrom_some hfound hm]
        exact List.mem_cons_self
      · rw [Occurrence.last_mk, List.count_append]
        omega
    have hpos : 0 < (c :: p).count '\n' := by
      refine List.count_pos_iff.2 (List.mem_of_getLast? ?_)
      rw [List.getLast?_cons, Option.some.injEq]
      exact hp _ (by rw [List.getLast?_cons]; exact Option.mem_some_self _)
    rw [Occurrence.last_mk, List.count_append] at hlast
    omega
  · exact ⟨z, rfl⟩

/-- Where no find goes over an edge of a line, before and after that line is replaced, the finds on
the other lines stay the same. -/
theorem filter_occurrencesFrom_replace (hread : ∀ b, Local (read b)) {p u v q : Text}
    (hp : ∀ c ∈ p.getLast?, c = '\n') (hu : '\n' ∉ u) (hv : '\n' ∉ v)
    (hq : ∀ c ∈ q.head?, c = '\n') {skip n k : Nat} {b : Bool} (hskip : skip ≤ p.length)
    (hk : k = n + p.count '\n')
    (hcu : ∀ o ∈ occurrencesFrom read skip b n (p ++ (u ++ q)),
      o.line ≤ k → k ≤ o.last → o.last = o.line)
    (hcv : ∀ o ∈ occurrencesFrom read skip b n (p ++ (v ++ q)),
      o.line ≤ k → k ≤ o.last → o.last = o.line) :
    (occurrencesFrom read skip b n (p ++ (u ++ q))).filter (fun o => o.line ≠ k) =
      (occurrencesFrom read skip b n (p ++ (v ++ q))).filter (fun o => o.line ≠ k) := by
  induction p generalizing skip n b with
  | nil =>
    obtain rfl : skip = 0 := Nat.le_zero.1 hskip
    obtain rfl : k = n := hk
    have hline : ∀ w : Text, '\n' ∉ w →
        (∀ o ∈ occurrencesFrom read 0 b k (w ++ q), o.line ≤ k → k ≤ o.last → o.last = o.line) →
        (occurrencesFrom read 0 b k (w ++ q)).filter (fun o => o.line ≠ k) =
          occurrencesFrom read 0 false (k + 1) q.tail := by
      intro w hw h
      refine filter_occurrencesFrom_line hread hw hq (Nat.zero_le _) fun o ho hl => ?_
      rw [h o ho (Nat.le_of_eq hl) (by rw [Occurrence.last]; omega), hl]
    rw [List.nil_append, hline u hu hcu, List.nil_append, hline v hv hcv]
  | cons c p ih =>
    have htail : ∀ d ∈ p.getLast?, d = '\n' := by
      cases p with
      | nil => simp
      | cons d p => exact hp
    have hnext : k = (if c = '\n' then n + 1 else n) + p.count '\n' :=
      hk.trans (line_count_cons n c p)
    cases skip with
    | succ skip =>
      rw [List.cons_append, occurrencesFrom] at hcu hcv ⊢
      rw [List.cons_append, occurrencesFrom]
      exact ih htail (Nat.le_of_succ_le_succ hskip) hnext hcu hcv
    | zero =>
      rcases (hread b).transfer (fun _ _ => within_of_last hread hp (hk ▸ hcu))
        (fun _ _ => within_of_last hread hp (hk ▸ hcv)) with
        ⟨hnone, hnone'⟩ | ⟨a, m, more, hm, hfound, hfound'⟩
      · simp only [List.cons_append] at hnone hnone' hcu hcv ⊢
        rw [occurrencesFrom_none hnone] at hcu ⊢
        rw [occurrencesFrom_none hnone'] at hcv ⊢
        exact ih htail (Nat.zero_le _) hnext hcu hcv
      · have hshape : ∀ t : Text, c :: (p ++ t) = m ++ (more ++ t) := fun t => by
          rw [← List.cons_append, hm, List.append_assoc]
        have hlength : m.length ≤ p.length + 1 := by
          rw [← List.length_cons, hm, List.length_append]
          exact Nat.le_add_right _ _
        simp only [List.cons_append] at hfound hfound' hcu hcv ⊢
        rw [occurrencesFrom_some hfound (hshape _)] at hcu ⊢
        rw [occurrencesFrom_some hfound' (hshape _)] at hcv ⊢
        rw [List.filter_cons, List.filter_cons, ih htail (Nat.sub_le_of_le_add hlength) hnext
          (fun o ho => hcu o (List.mem_cons_of_mem _ ho))
          fun o ho => hcv o (List.mem_cons_of_mem _ ho)]

end Occurrences
end SolInterface.Text
