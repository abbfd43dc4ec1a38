import SolInterface.Proofs.DirectiveRoundtrip
import SolInterface.Proofs.Locality

/-!
Module flags as they are written, and the proof that they are read back. Each kind of flag has a
scan of its own over the whole text. A scan finds its own flags and nothing in what other flags hold,
since two dashes stand only at the start of a flag.
-/
namespace SolInterface.ModuleFlags
open Text

/-! Scans. -/

section Scan

variable {α : Type} {read : Text → Option (α × Text)}

/-- What is found does not depend on the line or on what stands before the text. -/
theorem values_occurrencesFrom (skip : Nat) (b b' : Bool) (n n' : Nat) (t : Text) :
    (occurrencesFrom (fun _ => read) skip b n t).map (·.value) =
      (occurrencesFrom (fun _ => read) skip b' n' t).map (·.value) := by
  induction t generalizing skip b b' n n' with
  | nil => cases skip <;> rfl
  | cons c t ih =>
    cases skip with
    | succ skip => exact ih ..
    | zero =>
      rw [occurrencesFrom, occurrencesFrom]
      cases read (c :: t) with
      | none => exact ih ..
      | some found => exact congrArg (found.1 :: ·) (ih ..)

theorem all_cons {c : Char} {t : Text} (h : read (c :: t) = none) :
    all read (c :: t) = all read t := by
  rw [all, occurrences, occurrencesFrom_none h]
  exact values_occurrencesFrom ..

theorem values_skip (b : Bool) (n : Nat) (w t : Text) :
    (occurrencesFrom (fun _ => read) w.length b n (w ++ t)).map (·.value) = all read t := by
  induction w generalizing b n with
  | nil => exact values_occurrencesFrom ..
  | cons c w ih => exact ih ..

/-- A find is listed, and the scan goes on after it. -/
theorem all_found {a : α} {w t : Text} (hne : w ≠ []) (h : read (w ++ t) = some (a, t)) :
    all read (w ++ t) = a :: all read t := by
  obtain ⟨c, w, rfl⟩ := List.exists_cons_of_ne_nil hne
  have hsplit : c :: (w ++ t) = (c :: w) ++ t := rfl
  rw [all, occurrences, List.cons_append, occurrencesFrom_some h hsplit, List.map_cons,
    List.length_cons, Nat.add_sub_cancel, values_skip]

/-- The reader finds something only where two dashes stand. -/
def Dashed (read : Text → Option (α × Text)) : Prop := ∀ t, after? "--" t = none → read t = none

theorem dashed_after (key : Text) (step : Text → Option (α × Text)) :
    Dashed fun t => (after? ("--" ++ key) t).bind step := by
  intro t h
  have hnone : after? ("--" ++ key) t = none := by
    cases hkey : after? ("--" ++ key) t with
    | none => rfl
    | some rest =>
      rw [after?_eq_some.1 hkey, List.append_assoc, after?_append] at h
      cases h
  exact congrArg (·.bind step) hnone

/-- Text without two dashes in a row does not get them from what follows, if that starts with
none. -/
theorem after?_dashes {u rest : Text} (hu : occursIn "--" u = false) (hne : u ≠ [])
    (hrest : Stops (· == '-') rest) : after? "--" (u ++ rest) = none := by
  rcases u with _ | ⟨c, _ | ⟨d, u⟩⟩
  · exact absurd rfl hne
  · cases rest with
    | nil => simp [after?]
    | cons d rest => simp [after?, Ne.symm (by simpa using hrest : d ≠ '-')]
  · rw [occursIn, Bool.or_eq_false_iff, isPrefixOf_eq_isSome] at hu
    have hnone : after? "--" (c :: d :: u) = none := by simpa using hu.1
    simpa [after?] using hnone

/-- Such text is passed. -/
theorem Dashed.all_append (h : Dashed read) {u rest : Text} (hu : occursIn "--" u = false)
    (hrest : Stops (· == '-') rest) : all read (u ++ rest) = all read rest := by
  induction u with
  | nil => rfl
  | cons c u ih =>
    have hnone := h _ (after?_dashes hu (List.cons_ne_nil c u) hrest)
    rw [occursIn, Bool.or_eq_false_iff] at hu
    rw [List.cons_append] at hnone ⊢
    rw [all_cons hnone, ih hu.2]

end Scan

/-! Flags as they are written. -/

/-- A flag with what it holds. A path stands between double quotes or as it is. -/
inductive Flag where
  | remove (name : Text)
  | replace (old new : Text)
  | inherit (names : List Text)
  | quotedImport (path : Text)
  | bareImport (path : Text)
  deriving DecidableEq, Repr

namespace Flag
open Directive.Wording

def keyword : Flag → Text
  | .remove _ => "remove"
  | .replace _ _ => "replace"
  | .inherit _ => "is"
  | .quotedImport _ | .bareImport _ => "import"

def argument : Flag → Text
  | .remove name => name
  | .replace old new => old ++ " with " ++ new
  | .inherit names => joinWith [',', ' '] names
  | .quotedImport path => inQuotes path []
  | .bareImport path => path

def text (f : Flag) : Text := '-' :: '-' :: (f.keyword ++ ' ' :: f.argument)

/-- The flags that can be written. Names are words, and those of bases are trimmed parts of a line
without commas; a path holds no quote and, if it stands without quotes, no blank. None holds two
dashes in a row. -/
def Fits : Flag → Prop
  | .remove name => IsName name
  | .replace old new => IsName old ∧ IsName new
  | .inherit names => CommaListable names ∧ ∀ w ∈ names, occursIn "--" w = false
  | .quotedImport path => path ≠ [] ∧ '"' ∉ path ∧ occursIn "--" path = false
  | .bareImport path =>
    path ≠ [] ∧ (∀ c ∈ path, isBlank c = false ∧ c ≠ '"') ∧ occursIn "--" path = false

instance : ∀ f : Flag, Decidable f.Fits
  | .remove name => inferInstanceAs (Decidable (IsName name))
  | .replace _ _ => inferInstanceAs (Decidable (_ ∧ _))
  | .inherit _ => inferInstanceAs (Decidable (_ ∧ _))
  | .quotedImport _ => inferInstanceAs (Decidable (_ ∧ _ ∧ _))
  | .bareImport _ => inferInstanceAs (Decidable (_ ∧ _ ∧ _))

def removed? : Flag → Option Text
  | .remove name => some name
  | _ => none

def replaced? : Flag → Option (Text × Text)
  | .replace old new => some (old, new)
  | _ => none

def inherited? : Flag → Option (List Text)
  | .inherit names => some names
  | _ => none

def imported? : Flag → Option Text
  | .quotedImport path | .bareImport path => some path
  | _ => none

/-- What may follow a flag: nothing, or a space and the next flag. -/
def Continues (t : Text) : Prop := t = [] ∨ ∃ more, t = ' ' :: '-' :: '-' :: more

theorem Continues.stops {p : Char → Bool} {t : Text} (h : Continues t) (hp : p ' ' = false) :
    Stops p t := by
  rcases h with rfl | ⟨more, rfl⟩
  · exact stops_nil p
  · exact stops_cons.2 hp

theorem Continues.ended {t : Text} (h : Continues t) : ended t = true := by
  rcases h with rfl | ⟨more, rfl⟩ <;> rfl

/-! Two dashes stand only at the start of a flag. -/

theorem occursIn_dashes_word {w : Text} (h : IsName w) : occursIn "--" w = false :=
  occursIn_eq_false (c := '-') (by decide) (h.notMem rfl)

theorem occursIn_dashes_joinWith {names : List Text} (h : ∀ w ∈ names, occursIn "--" w = false) :
    occursIn "--" (joinWith [',', ' '] names) = false := by
  unfold joinWith
  induction names with
  | nil => rfl
  | cons w names ih =>
    obtain ⟨hw, hrest⟩ := List.forall_mem_cons.1 h
    cases names with
    | nil => simpa using hw
    | cons v names =>
      have hdashes : "--".toList ≠ [] ∧ ',' ∉ "--".toList ∧ ' ' ∉ "--".toList := by decide
      obtain ⟨hne, hcomma, hspace⟩ := hdashes
      have hshape : w ++ [',', ' '] ++ [',', ' '].intercalate (v :: names) =
          w ++ ',' :: ([] ++ ' ' :: [',', ' '].intercalate (v :: names)) := by simp
      rw [List.intercalate_cons_cons, hshape, occursIn_append_cons hne hcomma,
        occursIn_append_cons hne hspace, hw, ih hrest]
      rfl

theorem occursIn_dashes_argument {f : Flag} (h : f.Fits) : occursIn "--" f.argument = false := by
  have hne : "--".toList ≠ [] := by decide
  cases f with
  | remove name => exact occursIn_dashes_word h
  | replace old new =>
    have hshape : old ++ " with ".toList ++ new = old ++ ' ' :: ("with".toList ++ ' ' :: new) := by
      simp
    rw [argument, hshape, occursIn_append_cons hne (by decide),
      occursIn_append_cons hne (by decide),
      occursIn_dashes_word h.1, occursIn_dashes_word h.2]
    rfl
  | inherit names => exact occursIn_dashes_joinWith h.2
  | quotedImport path =>
    have hshape : inQuotes path [] = [] ++ '"' :: (path ++ '"' :: []) := rfl
    rw [argument, hshape, occursIn_append_cons hne (by decide),
      occursIn_append_cons hne (by decide),
      h.2.2]
    rfl
  | bareImport path => exact h.2.2

/-- After its first dash a flag holds no two dashes in a row. -/
theorem occursIn_dashes_tail {f : Flag} (h : f.Fits) : occursIn "--" f.text.tail = false := by
  have hkey : occursIn "--" ('-' :: f.keyword) = false := by cases f <;> rfl
  have hshape : f.text.tail = ('-' :: f.keyword) ++ ' ' :: f.argument := rfl
  rw [hshape, occursIn_append_cons (by decide) (by decide), hkey, occursIn_dashes_argument h]
  rfl

/-! Each reader on each flag. -/

theorem removeFlag?_text {f : Flag} (h : f.Fits) {rest : Text} (hrest : Continues rest) :
    removeFlag? (f.text ++ rest) = f.removed?.map (·, rest) := by
  cases f with
  | remove name =>
    have hname : IsName name := h
    have hafter : after? "--remove" ((remove name).text ++ rest) =
        some (' ' :: (name ++ rest)) := rfl
    rw [removeFlag?, hafter]
    simp [skipBlanks_of_stops (hname.stops_isBlank rest), hname.word?_append (hrest.stops rfl),
      hrest.ended, removed?]
  | replace _ _ | inherit _ | quotedImport _ | bareImport _ => rfl

theorem replaceFlag?_text {f : Flag} (h : f.Fits) {rest : Text} (hrest : Continues rest) :
    replaceFlag? (f.text ++ rest) = f.replaced?.map (·, rest) := by
  cases f with
  | replace old new =>
    obtain ⟨hold, hnew⟩ := h
    let tail : Text := ' ' :: 'w' :: 'i' :: 't' :: 'h' :: ' ' :: (new ++ rest)
    have hshape : old ++ " with ".toList ++ new ++ rest = old ++ tail := by simp [tail]
    have hafter : after? "--replace" ((replace old new).text ++ rest) =
        some (' ' :: (old ++ " with ".toList ++ new ++ rest)) := rfl
    have hold' : word? (old ++ tail) = some (old, tail) := hold.word?_append (stops_cons.2 rfl)
    have hwith : blanks? tail = some ('w' :: 'i' :: 't' :: 'h' :: ' ' :: (new ++ rest)) := rfl
    have hnew' : word? (new ++ rest) = some (new, rest) := hnew.word?_append (hrest.stops rfl)
    rw [replaceFlag?, hafter, hshape]
    simp [skipBlanks_of_stops (hold.stops_isBlank tail), hold', hwith, after?,
      skipBlanks_of_stops (hnew.stops_isBlank rest), hnew', hrest.ended, replaced?]
  | remove _ | inherit _ | quotedImport _ | bareImport _ => rfl

/-- A list of names goes on as long as no blanks and two dashes follow. -/
theorem namesEnd_eq_false {q rest : Text} (hne : q ≠ []) (hline : '\n' ∉ q)
    (hend : Stops isBlank q.reverse) (hdashes : occursIn "--" q = false) (hrest : Continues rest) :
    namesEnd (q ++ rest) = false := by
  have hatEnd : atEnd (q ++ rest) = false := by
    obtain ⟨c, q, rfl⟩ := List.exists_cons_of_ne_nil hne
    have hc : c ≠ '\n' := fun hc => hline (by simp [hc])
    simp [atEnd, hc]
  rw [namesEnd, hatEnd, Bool.false_or]
  cases hblanks : blanks? (q ++ rest) with
  | none => rfl
  | some more =>
    obtain ⟨gap, hgap, -, hblank, -⟩ := blanks?_eq_some.1 hblanks
    -- The names do not end in a blank, so the blanks end within them.
    have hsolid : ∃ c ∈ q, isBlank c = false := by
      obtain ⟨a, c, rfl, hc⟩ := endsSolid_of_stops hne hend
      exact ⟨c, by simp, hc⟩
    obtain ⟨c, hmem, hc⟩ := hsolid
    have hout : c ∉ gap := fun hm => by simp [hblank c hm] at hc
    rcases List.append_eq_append_iff.1 hgap with ⟨z, rfl, -⟩ | ⟨z, rfl, rfl⟩
    · exact absurd (List.mem_append_left z hmem) hout
    · have hz : z ≠ [] := by
        rintro rfl
        exact hout (by simpa using hmem)
      have hdashes' := occursIn_of_isSuffix hdashes (List.suffix_append gap z)
      have hnone := after?_dashes hdashes' hz (hrest.stops rfl)
      simpa [startsWith, isPrefixOf_eq_isSome] using hnone

theorem namesEnd_continues {rest : Text} (h : Continues rest) : namesEnd rest = true := by
  rcases h with rfl | ⟨more, rfl⟩ <;> rfl

/-- Names are taken up to the next flag. -/
theorem namesUpToEnd?_append {names rest : Text} (hne : names ≠ []) (hline : '\n' ∉ names)
    (hend : Stops isBlank names.reverse) (hdashes : occursIn "--" names = false)
    (hrest : Continues rest) : namesUpToEnd? (names ++ rest) = some (names, rest) := by
  induction names with
  | nil => exact absurd rfl hne
  | cons c names ih =>
    obtain ⟨hc, hline⟩ := not_or.1 (mt List.mem_cons.2 hline)
    rw [List.cons_append, namesUpToEnd?, if_neg (Ne.symm hc)]
    by_cases hnil : names = []
    · subst hnil
      rw [List.nil_append, if_pos (namesEnd_continues hrest)]
    · rw [List.reverse_cons, stops_append (by simpa using hnil)] at hend
      rw [occursIn, Bool.or_eq_false_iff] at hdashes
      rw [if_neg (by simp [namesEnd_eq_false hnil hline hend hdashes.2 hrest]),
        ih hnil hline hend hdashes.2]
      rfl

theorem basesFlag?_text {f : Flag} (h : f.Fits) {rest : Text} (hrest : Continues rest) :
    basesFlag? (f.text ++ rest) = f.inherited?.map (·, rest) := by
  cases f with
  | inherit names =>
    obtain ⟨hnames, hdashes⟩ := h
    have hafter : after? "--is" ((inherit names).text ++ rest) =
        some (' ' :: (joinWith [',', ' '] names ++ rest)) := rfl
    have hstops := hnames.stops_joinWith
    have hskip : skipBlanks (joinWith [',', ' '] names ++ rest) =
        joinWith [',', ' '] names ++ rest :=
      skipBlanks_of_stops ((stops_append hnames.joinWith_ne_nil rest).2 hstops)
    have hfound := namesUpToEnd?_append hnames.joinWith_ne_nil hnames.newline_notMem
      hnames.stops_reverse (occursIn_dashes_joinWith hdashes) hrest
    have hparts : commaParts (trim (joinWith [',', ' '] names)) = names := by
      rw [trim_eq_self_iff.2 ⟨hstops, hnames.stops_reverse⟩]
      exact commaParts_joinWith hnames.1 fun w hw => ⟨(hnames.2 w hw).2.1, (hnames.2 w hw).2.2.1⟩
    have hfilter : names.filter (fun name => !name.isEmpty) = names :=
      List.filter_eq_self.2 fun w hw => by simpa using (hnames.2 w hw).1
    rw [basesFlag?, hafter]
    simp [hskip, hfound, hparts, hfilter, inherited?]
  | remove _ | replace _ _ | quotedImport _ | bareImport _ => rfl

theorem importFlag?_text {f : Flag} (h : f.Fits) {rest : Text} (hrest : Continues rest) :
    importFlag? (f.text ++ rest) = f.imported?.map (·, rest) := by
  cases f with
  | quotedImport path =>
    obtain ⟨hne, hquote, -⟩ := h
    have hshape : inQuotes path [] ++ rest = inQuotes path rest := by simp [inQuotes]
    have hafter : after? "--import" ((quotedImport path).text ++ rest) =
        some (' ' :: (inQuotes path [] ++ rest)) := rfl
    have hquoted : quoted? (inQuotes path rest) = some (path, rest) :=
      quoted?_append rest hne hquote
    rw [importFlag?, hafter, hshape]
    simp [flagPath?, hquoted, hrest.ended, Option.filter, imported?]
  | bareImport path =>
    obtain ⟨hne, hpath, -⟩ := h
    have hafter : after? "--import" ((bareImport path).text ++ rest) =
        some (' ' :: (path ++ rest)) := rfl
    have hsolid : ∀ c ∈ path, (!isBlank c) = true := fun c hc => by simp [(hpath c hc).1]
    have hstop : Stops (fun c => !isBlank c) rest := hrest.stops rfl
    obtain ⟨c, path, rfl⟩ := List.exists_cons_of_ne_nil hne
    obtain ⟨hblank, hquote⟩ := hpath c List.mem_cons_self
    have hskip : skipBlanks (c :: path ++ rest) = c :: path ++ rest :=
      skipBlanks_of_stops (stops_cons.2 hblank)
    have hquoted : quoted? (c :: path ++ rest) = none := by
      unfold quoted?
      split
      · next hc => exact absurd (List.cons.inj hc).1 hquote
      · rfl
    have hfound : flagPath? (c :: path ++ rest) = some (c :: path, rest) := by
      rw [flagPath?, hquoted, takeWhile_run hsolid hstop, dropWhile_run hsolid hstop]
      rfl
    rw [importFlag?, hafter]
    simp only [Option.bind_eq_bind, Option.bind_some, blanks?_space, hskip, hfound]
    rfl
  | remove _ | replace _ _ | inherit _ => rfl

end Flag

/-! All flags of a text. -/

section All

variable {α : Type} {read : Text → Option (α × Text)} {own : Flag → Option α}

/-- The reader finds in a flag what the flag holds for it, and nothing where no flag starts. -/
structure Reads (read : Text → Option (α × Text)) (own : Flag → Option α) : Prop where
  dashed : Dashed read
  text : ∀ {f : Flag}, f.Fits → ∀ {rest : Text}, Flag.Continues rest →
    read (f.text ++ rest) = (own f).map (·, rest)

/-- One flag adds what it holds for the reader, if anything, to what is found after it. -/
theorem Reads.all_text (h : Reads read own) {f : Flag} (hf : f.Fits) {rest : Text}
    (hrest : Flag.Continues rest) :
    all read (f.text ++ rest) = (own f).toList ++ all read rest := by
  have hfound := h.text hf hrest
  cases hown : own f with
  | some a =>
    rw [hown, Option.map_some] at hfound
    exact all_found (List.cons_ne_nil _ _) hfound
  | none =>
    rw [hown, Option.map_none] at hfound
    refine (all_cons hfound).trans ?_
    exact h.dashed.all_append (Flag.occursIn_dashes_tail hf) (hrest.stops rfl)

/-- A scan of flags with spaces between them finds what they hold for the reader, in their order. -/
theorem Reads.all_joinWith (h : Reads read own) {flags : List Flag}
    (hflags : ∀ f ∈ flags, f.Fits) :
    all read (joinWith [' '] (flags.map Flag.text)) = flags.filterMap own := by
  unfold joinWith
  induction flags with
  | nil => rfl
  | cons f flags ih =>
    obtain ⟨hf, hmore⟩ := List.forall_mem_cons.1 hflags
    have hlist : (f :: flags).filterMap own = (own f).toList ++ flags.filterMap own := by
      cases hown : own f <;> simp [hown]
    rw [hlist, ← ih hmore]
    cases flags with
    | nil =>
      have hlast := h.all_text hf (.inl rfl)
      simpa using hlast
    | cons g flags =>
      have hspace : ∀ t, read (' ' :: t) = none := fun t => h.dashed _ rfl
      obtain ⟨more, hnext⟩ : ∃ more, [' '].intercalate ((g :: flags).map Flag.text) =
          '-' :: '-' :: more := by cases flags <;> exact ⟨_, rfl⟩
      have hfirst := h.all_text hf (.inr ⟨more, rfl⟩)
      rw [all_cons (hspace _), ← hnext] at hfirst
      rw [← hfirst]
      simp [List.intercalate_cons_cons]

end All

/-- Flags that are written with single spaces between them are all read back, each kind in its
order. -/
theorem parse_flags {flags : List Flag} (h : ∀ f ∈ flags, f.Fits) :
    parse (joinWith [' '] (flags.map Flag.text)) =
      { remove := flags.filterMap Flag.removed?
        replace := flags.filterMap Flag.replaced?
        bases := (flags.filterMap Flag.inherited?).flatten
        imports := flags.filterMap Flag.imported? } := by
  have hremove : Reads removeFlag? Flag.removed? :=
    ⟨dashed_after "remove" _, Flag.removeFlag?_text⟩
  have hreplace : Reads replaceFlag? Flag.replaced? :=
    ⟨dashed_after "replace" _, Flag.replaceFlag?_text⟩
  have hbases : Reads basesFlag? Flag.inherited? := ⟨dashed_after "is" _, Flag.basesFlag?_text⟩
  have himport : Reads importFlag? Flag.imported? :=
    ⟨dashed_after "import" _, Flag.importFlag?_text⟩
  rw [parse, hremove.all_joinWith h, hreplace.all_joinWith h, hbases.all_joinWith h,
    himport.all_joinWith h]

/-- Flags whose names and paths hold single dashes, quotes, a line feed and the words of other
flags. -/
theorem parse_flags_mixed :
    let flags : List Flag := [.inherit ["A -", "is \"B"], .quotedImport "- with\n.sol",
      .replace "with" "is", .bareImport "-x", .remove "is", .inherit ["C"]]
    let t : Text :=
      "--is A -, is \"B --import \"- with\n.sol\" --replace with with is --import -x --remove is --is C"
    joinWith [' '] (flags.map Flag.text) = t ∧
      parse t = {
        remove := ["is"]
        replace := [("with", "is")]
        bases := ["A -", "is \"B", "C"]
        imports := ["- with\n.sol", "-x"] } := by
  intro flags t
  have hfits : ∀ f ∈ flags, f.Fits := by decide
  have htext : joinWith [' '] (flags.map Flag.text) = t := by decide
  refine ⟨htext, ?_⟩
  rw [← htext]
  exact parse_flags hfits

end SolInterface.ModuleFlags
