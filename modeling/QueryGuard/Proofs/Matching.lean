import QueryGuard.Pattern.Expr

/-!
# What patterns match

A pattern matches a piece of a text between the characters before and behind it
(`Matches`), which is what its places are read as one after the other. Marks stand
for matches under way: the rest of such a match is what a pattern still has to read
(`Rests`). What holds at a position decides both for the empty piece
(`status_nothing`, `status_ends`), a character moves the marks on to what then rests
(`rests_shift`), and so a search finds just the pieces that match (`foundFrom_iff`).
-/

namespace QueryGuard.Pattern

-- ---------------------------------------------------------------------------
-- Pieces and what stands around them
-- ---------------------------------------------------------------------------

/-- The character before what follows the piece. -/
def passed (before : Option Char) : List Char → Option Char
  | [] => before
  | c :: rest => passed (some c) rest

/-- The character behind what the piece follows. -/
def ahead : List Char → Option Char → Option Char
  | [], behind => behind
  | c :: _, _ => some c

theorem passed_eq_none_iff {before : Option Char} {piece : List Char} :
    passed before piece = none ↔ before = none ∧ piece = [] := by
  induction piece generalizing before with
  | nil => simp [passed]
  | cons c piece ih => simp [passed, ih]

theorem ahead_eq_none_iff {piece : List Char} {behind : Option Char} :
    ahead piece behind = none ↔ behind = none ∧ piece = [] := by
  cases piece <;> simp [ahead]

theorem exists_split_cons {c : Char} {piece : List Char} {split : List Char → List Char → Prop} :
    (∃ first second, c :: piece = first ++ second ∧ split first second) ↔
      split [] (c :: piece) ∨
        ∃ first second, piece = first ++ second ∧ split (c :: first) second := by
  constructor
  · rintro ⟨first, second, he, h⟩
    cases first with
    | nil => exact .inl (he ▸ h)
    | cons d first =>
      obtain ⟨rfl, rfl⟩ := List.cons.inj he
      exact .inr ⟨first, second, rfl, h⟩
  · rintro (h | ⟨first, second, rfl, h⟩)
    · exact ⟨[], c :: piece, rfl, h⟩
    · exact ⟨c :: first, second, rfl, h⟩

theorem exists_split_nil {split : List Char → List Char → Prop} :
    (∃ first second, [] = first ++ second ∧ split first second) ↔ split [] [] := by
  constructor
  · rintro ⟨first, second, he, h⟩
    obtain ⟨rfl, rfl⟩ := List.nil_eq_append_iff.mp he
    exact h
  · exact fun h => ⟨[], [], rfl, h⟩

-- ---------------------------------------------------------------------------
-- Matches
-- ---------------------------------------------------------------------------

/-- The pattern matches the piece between two characters, or the ends of the text.
A repetition goes on only with what takes a character. -/
inductive Matches : Pattern → Option Char → List Char → Option Char → Prop where
  | empty {before behind : Option Char} : Matches .empty before [] behind
  | one {set : CharSet} {marked : Bool} {before behind : Option Char} {c : Char}
      (hc : set.contains c = true) : Matches (.one set marked) before [c] behind
  | look {condition : Look} {before behind : Option Char}
      (h : condition.holds ⟨before, behind⟩ = true) : Matches (.look condition) before [] behind
  | seq {first second : Pattern} {before behind : Option Char} {x y : List Char}
      (hf : first.Matches before x (ahead y behind))
      (hs : second.Matches (passed before x) y behind) :
      Matches (.seq first second) before (x ++ y) behind
  | left {first second : Pattern} {before behind : Option Char} {x : List Char}
      (h : first.Matches before x behind) : Matches (.alt first second) before x behind
  | right {first second : Pattern} {before behind : Option Char} {x : List Char}
      (h : second.Matches before x behind) : Matches (.alt first second) before x behind
  | done {body : Pattern} {before behind : Option Char} : Matches (.star body) before [] behind
  | more {body : Pattern} {before behind : Option Char} {c : Char} {x y : List Char}
      (hb : body.Matches before (c :: x) (ahead y behind))
      (hs : (Pattern.star body).Matches (passed (some c) x) y behind) :
      Matches (.star body) before (c :: x ++ y) behind

/-- The piece ends a match of the pattern that is under way at one of its marks. -/
inductive Rests : Pattern → Option Char → List Char → Option Char → Prop where
  | one {set : CharSet} {before behind : Option Char} : Rests (.one set true) before [] behind
  | first {first second : Pattern} {before behind : Option Char} {x y : List Char}
      (hf : first.Rests before x (ahead y behind))
      (hs : second.Matches (passed before x) y behind) :
      Rests (.seq first second) before (x ++ y) behind
  | second {first second : Pattern} {before behind : Option Char} {x : List Char}
      (h : second.Rests before x behind) : Rests (.seq first second) before x behind
  | left {first second : Pattern} {before behind : Option Char} {x : List Char}
      (h : first.Rests before x behind) : Rests (.alt first second) before x behind
  | right {first second : Pattern} {before behind : Option Char} {x : List Char}
      (h : second.Rests before x behind) : Rests (.alt first second) before x behind
  | star {body : Pattern} {before behind : Option Char} {x y : List Char}
      (hb : body.Rests before x (ahead y behind))
      (hs : (Pattern.star body).Matches (passed before x) y behind) :
      Rests (.star body) before (x ++ y) behind

section
variable {first second body : Pattern} {set : CharSet} {marked : Bool} {condition : Look}
  {before behind : Option Char} {piece : List Char} {c : Char}

theorem matches_empty : Matches .empty before piece behind ↔ piece = [] := by
  constructor
  · rintro ⟨⟩
    rfl
  · rintro rfl
    exact .empty

theorem matches_one : Matches (.one set marked) before piece behind ↔
    ∃ c, piece = [c] ∧ set.contains c = true := by
  constructor
  · rintro ⟨⟩
    exact ⟨_, rfl, ‹_›⟩
  · rintro ⟨c, rfl, hc⟩
    exact .one hc

theorem matches_look : Matches (.look condition) before piece behind ↔
    piece = [] ∧ condition.holds ⟨before, behind⟩ = true := by
  constructor
  · rintro ⟨⟩
    exact ⟨rfl, ‹_›⟩
  · rintro ⟨rfl, h⟩
    exact .look h

theorem matches_seq : Matches (.seq first second) before piece behind ↔
    ∃ x y, piece = x ++ y ∧ first.Matches before x (ahead y behind) ∧
      second.Matches (passed before x) y behind := by
  constructor
  · rintro ⟨⟩
    exact ⟨_, _, rfl, ‹_›, ‹_›⟩
  · rintro ⟨x, y, rfl, hf, hs⟩
    exact .seq hf hs

theorem matches_alt : Matches (.alt first second) before piece behind ↔
    first.Matches before piece behind ∨ second.Matches before piece behind := by
  constructor
  · rintro ⟨⟩
    · exact .inl ‹_›
    · exact .inr ‹_›
  · rintro (h | h)
    · exact .left h
    · exact .right h

theorem matches_star_cons : Matches (.star body) before (c :: piece) behind ↔
    ∃ x y, piece = x ++ y ∧ body.Matches before (c :: x) (ahead y behind) ∧
      (Pattern.star body).Matches (passed (some c) x) y behind := by
  constructor
  · intro h
    generalize hp : c :: piece = whole at h
    cases h with
    | done => cases hp
    | more hb hs =>
      obtain ⟨rfl, rfl⟩ := List.cons.inj hp
      exact ⟨_, _, rfl, hb, hs⟩
  · rintro ⟨x, y, rfl, hb, hs⟩
    exact .more hb hs

theorem matches_star_one : Matches (.star (.one set marked)) before piece behind ↔
    ∀ c ∈ piece, set.contains c = true := by
  induction piece generalizing before with
  | nil => exact iff_of_true .done nofun
  | cons c piece ih =>
    rw [matches_star_cons, List.forall_mem_cons]
    simp only [matches_one]
    constructor
    · rintro ⟨x, y, rfl, ⟨d, he, hd⟩, hrest⟩
      obtain ⟨rfl, rfl⟩ := List.cons.inj he
      exact ⟨hd, ih.mp hrest⟩
    · rintro ⟨hc, hrest⟩
      exact ⟨[], piece, rfl, ⟨c, rfl, hc⟩, ih.mpr hrest⟩

theorem rests_one : Rests (.one set marked) before piece behind ↔ marked = true ∧ piece = [] := by
  constructor
  · rintro ⟨⟩
    exact ⟨rfl, rfl⟩
  · rintro ⟨rfl, rfl⟩
    exact .one

theorem rests_seq : Rests (.seq first second) before piece behind ↔
    (∃ x y, piece = x ++ y ∧ first.Rests before x (ahead y behind) ∧
      second.Matches (passed before x) y behind) ∨ second.Rests before piece behind := by
  constructor
  · rintro ⟨⟩
    · exact .inl ⟨_, _, rfl, ‹_›, ‹_›⟩
    · exact .inr ‹_›
  · rintro (⟨x, y, rfl, hf, hs⟩ | h)
    · exact .first hf hs
    · exact .second h

theorem rests_alt : Rests (.alt first second) before piece behind ↔
    first.Rests before piece behind ∨ second.Rests before piece behind := by
  constructor
  · rintro ⟨⟩
    · exact .inl ‹_›
    · exact .inr ‹_›
  · rintro (h | h)
    · exact .left h
    · exact .right h

theorem rests_star : Rests (.star body) before piece behind ↔
    ∃ x y, piece = x ++ y ∧ body.Rests before x (ahead y behind) ∧
      (Pattern.star body).Matches (passed before x) y behind := by
  constructor
  · rintro ⟨⟩
    exact ⟨_, _, rfl, ‹_›, ‹_›⟩
  · rintro ⟨x, y, rfl, hb, hs⟩
    exact .star hb hs

end

-- ---------------------------------------------------------------------------
-- At a position
-- ---------------------------------------------------------------------------

section
variable {p : Pattern} {before behind : Option Char}

theorem status_nothing :
    (p.status ⟨before, behind⟩).nothing = true ↔ p.Matches before [] behind := by
  induction p with
  | empty => exact iff_of_true rfl .empty
  | one set marked => simp [status, matches_one]
  | look condition => simp [status, matches_look]
  | seq first second ihf ihs =>
    rw [matches_seq, exists_split_nil, status, Bool.and_eq_true, ihf, ihs]
    rfl
  | alt first second ihf ihs => rw [matches_alt, status, Bool.or_eq_true, ihf, ihs]
  | star body => exact iff_of_true rfl .done

theorem status_ends : (p.status ⟨before, behind⟩).ends = true ↔ p.Rests before [] behind := by
  induction p with
  | empty => exact iff_of_false nofun nofun
  | one set marked => simp [status, rests_one]
  | look condition => exact iff_of_false nofun nofun
  | seq first second ihf ihs =>
    rw [rests_seq, exists_split_nil, status, Bool.or_eq_true, Bool.and_eq_true, ihf, ihs,
      status_nothing]
    rfl
  | alt first second ihf ihs => rw [rests_alt, status, Bool.or_eq_true, ihf, ihs]
  | star body ih =>
    rw [rests_star, exists_split_nil, status, ih, and_iff_left .done]
    rfl

end

-- ---------------------------------------------------------------------------
-- Reading a character
-- ---------------------------------------------------------------------------

theorem Matches.star_mono {body other : Pattern} {before behind : Option Char} {piece : List Char}
    (hb : ∀ {before piece behind}, body.Matches before piece behind →
      other.Matches before piece behind)
    (h : Matches (.star body) before piece behind) : Matches (.star other) before piece behind := by
  generalize hp : Pattern.star body = p at h
  induction h with
  | done => exact .done
  | more hown _ _ ih =>
    cases hp
    exact .more (hb hown) (ih rfl)
  | _ => cases hp

section
variable {p : Pattern} {before behind : Option Char} {piece : List Char} {c : Char}
  {entering : Bool}

theorem matches_shift {position : Position} :
    (p.shift position c entering).Matches before piece behind ↔ p.Matches before piece behind := by
  induction p generalizing before piece behind entering with
  | empty => exact Iff.rfl
  | one set marked => rw [shift, matches_one, matches_one]
  | look condition => exact Iff.rfl
  | seq first second ihf ihs => simp only [shift, matches_seq, ihf, ihs]
  | alt first second ihf ihs => simp only [shift, matches_alt, ihf, ihs]
  | star body ih => exact ⟨Matches.star_mono ih.mp, Matches.star_mono ih.mpr⟩

theorem rests_shift : (p.shift ⟨before, some c⟩ c entering).Rests (some c) piece behind ↔
    entering = true ∧ p.Matches before (c :: piece) behind ∨
      p.Rests before (c :: piece) behind := by
  induction p generalizing piece behind entering with
  | empty => exact iff_of_false nofun (by rintro (⟨-, ⟨⟩⟩ | h); cases h)
  | one set marked =>
    rw [shift, rests_one, matches_one, rests_one, Bool.and_eq_true]
    constructor
    · rintro ⟨⟨he, hc⟩, rfl⟩
      exact .inl ⟨he, c, rfl, hc⟩
    · rintro (⟨he, _, hp, hc⟩ | ⟨-, hp⟩)
      · cases hp
        exact ⟨⟨he, hc⟩, rfl⟩
      · cases hp
  | look condition => exact iff_of_false nofun (by rintro (⟨-, ⟨⟩⟩ | h); cases h)
  | seq first second ihf ihs =>
    -- A match that begins here, or that is under way in the first part, may have
    -- come to the end of that part already.
    rw [shift, rests_seq, matches_seq, exists_split_cons, rests_seq, exists_split_cons]
    simp only [matches_shift, ihf, ihs, Bool.or_eq_true, Bool.and_eq_true, status_nothing,
      status_ends]
    constructor
    · rintro (⟨x, y, rfl, ⟨he, hf⟩ | hf, hs⟩ | ⟨⟨he, hf⟩ | hf, hs⟩ | hs)
      · exact .inl ⟨he, .inr ⟨x, y, rfl, hf, hs⟩⟩
      · exact .inr (.inl (.inr ⟨x, y, rfl, hf, hs⟩))
      · exact .inl ⟨he, .inl ⟨hf, hs⟩⟩
      · exact .inr (.inl (.inl ⟨hf, hs⟩))
      · exact .inr (.inr hs)
    · rintro (⟨he, ⟨hf, hs⟩ | ⟨x, y, rfl, hf, hs⟩⟩ | (⟨hf, hs⟩ | ⟨x, y, rfl, hf, hs⟩) | hs)
      · exact .inr (.inl ⟨.inl ⟨he, hf⟩, hs⟩)
      · exact .inl ⟨x, y, rfl, .inl ⟨he, hf⟩, hs⟩
      · exact .inr (.inl ⟨.inr hf, hs⟩)
      · exact .inl ⟨x, y, rfl, .inr hf, hs⟩
      · exact .inr (.inr hs)
  | alt first second ihf ihs =>
    rw [shift, rests_alt, ihf, ihs, matches_alt, rests_alt, and_or_left]
    exact or_or_or_comm
  | star body ih =>
    -- A match that has come to the end of the body may begin it again.
    have hstar : ∀ {x y z}, ((Pattern.star body).shift ⟨before, some c⟩ c entering).Matches x y z ↔
        (Pattern.star body).Matches x y z := matches_shift
    rw [shift] at hstar ⊢
    rw [rests_star, matches_star_cons, rests_star, exists_split_cons]
    simp only [hstar, ih, Bool.or_eq_true, status_ends]
    constructor
    · rintro ⟨x, y, rfl, ⟨he | hr, hb⟩ | hb, hs⟩
      · exact .inl ⟨he, x, y, rfl, hb, hs⟩
      · exact .inr (.inl ⟨hr, .more hb hs⟩)
      · exact .inr (.inr ⟨x, y, rfl, hb, hs⟩)
    · rintro (⟨he, x, y, rfl, hb, hs⟩ | ⟨hr, hs⟩ | ⟨x, y, rfl, hb, hs⟩)
      · exact ⟨x, y, rfl, .inl ⟨.inl he, hb⟩, hs⟩
      · obtain ⟨x, y, rfl, hb, hs⟩ := matches_star_cons.mp hs
        exact ⟨x, y, rfl, .inl ⟨.inr hr, hb⟩, hs⟩
      · exact ⟨x, y, rfl, .inr hb, hs⟩

end

-- ---------------------------------------------------------------------------
-- Searching
-- ---------------------------------------------------------------------------

/-- Some part of the text matches. -/
def FoundIn (p : Pattern) (before : Option Char) (text : List Char) : Prop :=
  ∃ start piece rest, text = start ++ piece ++ rest ∧
    p.Matches (passed before start) piece (ahead rest none)

/-- The text begins with the end of a match that is under way. -/
def EndsIn (p : Pattern) (before : Option Char) (text : List Char) : Prop :=
  ∃ piece rest, text = piece ++ rest ∧ p.Rests before piece (ahead rest none)

section
variable {p : Pattern} {before : Option Char} {text : List Char} {c : Char}

theorem endsIn_nil : p.EndsIn before [] ↔ p.Rests before [] none := exists_split_nil

theorem endsIn_cons : p.EndsIn before (c :: text) ↔ p.Rests before [] (some c) ∨
    ∃ piece rest, text = piece ++ rest ∧ p.Rests before (c :: piece) (ahead rest none) :=
  exists_split_cons

theorem foundIn_nil : p.FoundIn before [] ↔ p.Matches before [] none := by
  constructor
  · rintro ⟨start, piece, rest, he, h⟩
    obtain ⟨hfront, rfl⟩ := List.nil_eq_append_iff.mp he
    obtain ⟨rfl, rfl⟩ := List.append_eq_nil_iff.mp hfront
    exact h
  · exact fun h => ⟨[], [], [], rfl, h⟩

theorem foundIn_cons : p.FoundIn before (c :: text) ↔ p.Matches before [] (some c) ∨
    p.FoundIn (some c) text ∨
      ∃ piece rest, text = piece ++ rest ∧ p.Matches before (c :: piece) (ahead rest none) := by
  constructor
  · rintro ⟨_ | ⟨d, start⟩, piece, rest, he, h⟩
    · cases piece with
      | nil =>
        obtain rfl : c :: text = rest := he
        exact .inl h
      | cons d piece =>
        obtain ⟨rfl, rfl⟩ := List.cons.inj he
        exact .inr (.inr ⟨piece, rest, rfl, h⟩)
    · obtain ⟨rfl, rfl⟩ := List.cons.inj he
      exact .inr (.inl ⟨start, piece, rest, rfl, h⟩)
  · rintro (h | ⟨start, piece, rest, rfl, h⟩ | ⟨piece, rest, rfl, h⟩)
    · exact ⟨[], [], c :: text, rfl, h⟩
    · exact ⟨c :: start, piece, rest, rfl, h⟩
    · exact ⟨[], c :: piece, rest, rfl, h⟩

/-- By induction on the text: what a character moves on is under way behind it. -/
theorem foundFrom_iff : p.foundFrom before text = true ↔
    p.FoundIn before text ∨ p.EndsIn before text := by
  induction text generalizing p before with
  | nil => rw [foundFrom, Bool.or_eq_true, status_nothing, status_ends, foundIn_nil, endsIn_nil]
  | cons c text ih =>
    have hfound : (p.shift ⟨before, some c⟩ c true).FoundIn (some c) text ↔
        p.FoundIn (some c) text := by
      simp only [FoundIn, matches_shift]
    have hends : (p.shift ⟨before, some c⟩ c true).EndsIn (some c) text ↔
        (∃ piece rest, text = piece ++ rest ∧ p.Matches before (c :: piece) (ahead rest none)) ∨
          ∃ piece rest, text = piece ++ rest ∧ p.Rests before (c :: piece) (ahead rest none) := by
      simp only [EndsIn, rests_shift, true_and, and_or_left, exists_or]
    rw [foundFrom, Bool.or_eq_true, Bool.or_eq_true, status_nothing, status_ends, ih, hfound,
      hends, foundIn_cons, endsIn_cons]
    exact (or_congr_right or_assoc.symm).trans or_or_or_comm

end

-- ---------------------------------------------------------------------------
-- Patterns of expressions
-- ---------------------------------------------------------------------------

/-- No match is under way. -/
def Unmarked : Pattern → Prop
  | .one _ marked => marked = false
  | .seq first second => first.Unmarked ∧ second.Unmarked
  | .alt first second => first.Unmarked ∧ second.Unmarked
  | .star body => body.Unmarked
  | _ => True

theorem Unmarked.not_rests {p : Pattern} {before behind : Option Char} {piece : List Char}
    (hp : p.Unmarked) : ¬ p.Rests before piece behind := by
  intro h
  induction h with
  | one => cases hp
  | first _ _ ih => exact ih hp.1
  | second _ ih => exact ih hp.2
  | left _ ih => exact ih hp.1
  | right _ ih => exact ih hp.2
  | star _ _ ih => exact ih hp

namespace Expr

section
variable {body last : Pattern}

theorem unmarked_copies (hb : body.Unmarked) (hl : last.Unmarked) (n : Nat) :
    (copies body last n).Unmarked := by
  induction n with
  | zero => exact hl
  | succ n ih => exact ⟨hb, ih⟩

theorem unmarked_optional (hb : body.Unmarked) (n : Nat) : (optional body n).Unmarked := by
  induction n with
  | zero => trivial
  | succ n ih => exact ⟨trivial, hb, ih⟩

end

mutual

theorem unmarked_toPattern : ∀ e : Expr, e.toPattern.Unmarked
  | .empty => trivial
  | .flags => trivial
  | .literal _ => rfl
  | .set .. => rfl
  | .look _ => trivial
  | .repeated least most body => by
    have hbody := unmarked_toPattern body
    rw [toPattern]
    refine unmarked_copies hbody ?_ _
    split
    · exact hbody
    · exact unmarked_optional hbody _
  | .group _ body => unmarked_toPattern body
  | .concat items => unmarked_sequence items
  | .choice items => unmarked_choiceOf items

theorem unmarked_sequence : ∀ items : List Expr, (sequence items).Unmarked
  | [] => trivial
  | item :: rest => ⟨unmarked_toPattern item, unmarked_sequence rest⟩

theorem unmarked_choiceOf : ∀ items : List Expr, (choiceOf items).Unmarked
  | [] => rfl
  | item :: rest => ⟨unmarked_toPattern item, unmarked_choiceOf rest⟩

end

theorem toPattern_repeated_set (set : CharSet) (depth : Nat) :
    (repeated 0 none (.set set depth)).toPattern = .star (.one set false) := rfl

theorem occursIn_iff (e : Expr) (text : String) :
    e.toPattern.occursIn text = true ↔ e.toPattern.FoundIn none text.toList := by
  rw [occursIn, foundFrom_iff, or_iff_left]
  rintro ⟨piece, rest, -, h⟩
  exact (unmarked_toPattern e).not_rests h

end Expr

end QueryGuard.Pattern
