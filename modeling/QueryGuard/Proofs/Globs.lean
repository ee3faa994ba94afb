import QueryGuard.Policy
import QueryGuard.Proofs.Matching
import QueryGuard.Proofs.Routes

/-!
# Routes as patterns

A route can be written as a pattern: it is split at pairs of stars and each part at
single ones, what stands in between is escaped, and the parts are joined with what
the stars stand for (`expression`). However stars stand together, this spells the
tokens of the route one after the other (`inner_eq_spelled`), the pattern is read
back as they are spelled (`ofText?_expression`), and it occurs in the paths that fall
into pieces for them (`occursIn_whole`). It is compiled as long as it keeps within the
limit (`pattern?_eq`), which validation asks of every endpoint.
-/

namespace QueryGuard

-- ---------------------------------------------------------------------------
-- Sets that leave one character out
-- ---------------------------------------------------------------------------

namespace CharSet

theorem contains_single {c d : Char} : (single c).contains d = (d == c) := by
  rw [Bool.eq_iff_iff, beq_iff_eq, ← Char.toNat_inj]
  simp only [contains, single, covers]
  grind

theorem toNat_le_lastCode (c : Char) : c.toNat ≤ lastCode := by
  have hvalid : c.toNat.isValidChar := c.valid
  unfold Nat.isValidChar at hvalid
  unfold lastCode
  omega

theorem contains_complement_single {c d : Char} :
    (single c).complement.contains d = (d != c) := by
  have hd := toNat_le_lastCode d
  rw [Bool.eq_iff_iff, bne_iff_ne, ne_eq, ← Char.toNat_inj]
  simp only [contains, complement, single, gaps]
  split <;> split <;> simp only [List.nil_append, List.cons_append, covers] <;> grind

end CharSet

namespace Route

-- ---------------------------------------------------------------------------
-- Writing
-- ---------------------------------------------------------------------------

section
variable {text part : List Char} {c : Char}

theorem intercalate_extend {α : Type} (between front first : List α) (others : List (List α)) :
    List.intercalate between ((front ++ first) :: others) =
      front ++ List.intercalate between (first :: others) := by
  cases others <;> simp [List.intercalate_cons_cons]

theorem partExpression_star :
    partExpression ('*' :: part) = Token.segment.spelling ++ partExpression part := by
  have hsplit : ('*' :: part).splitOn '*' = [] :: part.splitOn '*' := by
    simp [List.splitOn, List.splitOnP_cons_eq_if_modifyHead]
  have hne : (part.splitOn '*').map (fun text => text.flatMap escaped) ≠ [] := by
    simp
  rw [partExpression, hsplit, List.map_cons, List.intercalate_cons_of_ne_nil hne]
  rfl

theorem partExpression_cons (hc : c ≠ '*') :
    partExpression (c :: part) = escaped c ++ partExpression part := by
  have hsplit : (c :: part).splitOn '*' = (part.splitOn '*').modifyHead (c :: ·) := by
    simp [List.splitOn, List.splitOnP_cons_eq_if_modifyHead, hc]
  obtain ⟨first, others, he⟩ := List.exists_cons_of_ne_nil (List.splitOn_ne_nil '*' part)
  rw [partExpression, partExpression, hsplit, he, List.modifyHead_cons, List.map_cons,
    List.flatMap_cons, intercalate_extend, List.map_cons]

theorem splitPairs_ne_nil (text : List Char) : splitPairs text ≠ [] := by
  fun_induction splitPairs text <;> simp_all

theorem inner_extend {front : List Char}
    (h : ∀ part, partExpression (c :: part) = front ++ partExpression part)
    (hsplit : splitPairs (c :: text) = (splitPairs text).modifyHead (c :: ·)) :
    inner (c :: text) = front ++ inner text := by
  obtain ⟨first, others, he⟩ := List.exists_cons_of_ne_nil (splitPairs_ne_nil text)
  rw [inner, inner, hsplit, he, List.modifyHead_cons, List.map_cons, h, intercalate_extend,
    List.map_cons]

/-- Splitting at pairs first and at single stars afterwards reads stars as the tokens
do. -/
theorem inner_eq_spelled (route : List Char) :
    inner route = (tokens route).flatMap Token.spelling := by
  fun_induction tokens route with
  | case1 rest ih =>
    have hne : (splitPairs rest).map partExpression ≠ [] := by simpa using splitPairs_ne_nil rest
    rw [inner, splitPairs, List.map_cons, List.intercalate_cons_of_ne_nil hne, List.flatMap_cons,
      ← ih]
    rfl
  | case2 rest hnone ih =>
    have hsplit : splitPairs ('*' :: rest) = (splitPairs rest).modifyHead ('*' :: ·) := by
      rw [splitPairs]
      exact fun rest' _ he => hnone rest' he
    rw [inner_extend (fun _ => partExpression_star) hsplit, ih, List.flatMap_cons, Token.spelling]
  | case3 c rest hpair hc ih =>
    have hsplit : splitPairs (c :: rest) = (splitPairs rest).modifyHead (c :: ·) := by
      rw [splitPairs]
      exact hpair
    have hstar : c ≠ '*' := fun he => hc he
    rw [inner_extend (fun _ => partExpression_cons hstar) hsplit, ih, List.flatMap_cons,
      Token.spelling]
  | case4 => rfl

end

example : expression "/a.b/***" = "^/a\\.b/.*[^/]*$" := by
  rfl

-- ---------------------------------------------------------------------------
-- Reading
-- ---------------------------------------------------------------------------

/-- What a token is read as. -/
def Token.expr : Token → Pattern.Expr
  | .anything => .repeated 0 none (.set (CharSet.single '\n').complement 0)
  | .segment => .repeated 0 none (.set (CharSet.single '/').complement 1)
  | .literal c => .literal c

open Pattern Pattern.Reader

section
variable {s : Pattern.Reader.State} {text rest : List Char} {c : Char} {item : Expr}
  {token : Token} {route : List Token}

theorem run?_cons (hs : s.flags = initialFlags false) (hr : s.rest = c :: rest) (fuel : Nat) :
    run? (fuel + 1) s = (step? s c rest).bind (run? fuel) := by
  rw [run?, hs, hr]
  rfl

theorem run?_nil (hs : s.flags = initialFlags false) (hr : s.rest = []) (fuel : Nat) :
    run? fuel s = some s := by
  cases fuel <;> simp [run?, hr, spaced, hs, initialFlags]

theorem step?_start (hs : s.flags = initialFlags false) :
    step? s '^' rest = some (s.push (.look .textStart) rest) := by
  simp [step?, hs, lineStart, initialFlags]

theorem step?_end (hs : s.flags = initialFlags false) :
    step? s '$' rest = some (s.push (.look .textEnd) rest) := by
  simp [step?, hs, lineEnd, initialFlags]

theorem step?_dot (hs : s.flags = initialFlags false) :
    step? s '.' rest = some (s.push (.set (CharSet.single '\n').complement 0) rest) := by
  simp [step?, hs, dot?, initialFlags]

theorem opening_negated (rest : List Char) :
    opening (initialFlags false) ('^' :: '/' :: rest) = (true, ⟨none, []⟩, '/' :: rest) := rfl

theorem unionAll_single (c : Char) : CharSet.unionAll [CharSet.single c] = CharSet.single c := by
  simp [CharSet.unionAll, CharSet.ofRanges, CharSet.single, CharSet.joined]

theorem bracket?_single (fuel : Nat) (rest : List Char) :
    bracket? (initialFlags false) (fuel + 2) true ⟨none, []⟩ [] ('/' :: ']' :: rest) =
      some (⟨(CharSet.unionAll [CharSet.single '/']).complement, 1⟩, rest) := rfl

theorem step?_bracket (hs : s.flags = initialFlags false) :
    step? s '[' ('^' :: '/' :: ']' :: rest) =
      some (s.push (.set (CharSet.single '/').complement 1) rest) := by
  simp only [step?, hs, opening_negated, List.length_cons, bracket?_single, unionAll_single]
  rfl

theorem step?_star (hitem : item ≠ .flags) (h : rest.head? ≠ some '?') :
    step? (s.push item text) '*' rest = some (s.push (.repeated 0 none item) rest) := by
  -- A question mark behind the star would be taken along.
  have hrest : (if rest.head? == some '?' then rest.tail else rest) = rest := by simp [h]
  cases item with
  | flags => exact absurd rfl hitem
  | _ => simp only [step?, repeat?, State.push, hrest]

theorem literal?_eq (hs : s.flags = initialFlags false) :
    literal? s.flags c false = some (.literal c) := by
  simp [literal?, hs, initialFlags, folded]

theorem escape?_meta (hc : c ∈ metaCharacters) (flags : Flags) :
    escape? flags (c :: rest) = some (.literal c false, rest) := by
  have hplain : ∀ c ∈ metaCharacters, c ∉ ['x', 'u', 'U', 'p', 'P'] ∧
      c.toLower ∉ ['d', 's', 'w'] ∧ isEscapable c = true := by
    simp [metaCharacters, isEscapable]
  obtain ⟨hletter, hlower, hescapable⟩ := hplain c hc
  simp only [List.mem_cons, List.not_mem_nil, or_false, not_or] at hletter hlower
  simp [escape?, hletter, hlower, hescapable]

theorem step?_escaped (hs : s.flags = initialFlags false) :
    ∃ first others, escaped c = first :: others ∧
      step? s first (others ++ rest) = some (s.push (.literal c) rest) := by
  by_cases hm : c ∈ metaCharacters
  · refine ⟨'\\', [c], if_pos hm, ?_⟩
    simp [step?, escape?_meta hm, literal?_eq hs]
  · refine ⟨c, [], if_neg hm, ?_⟩
    have hmeta : ∀ d ∈ metaCharacters, c ≠ d := fun d hd he => hm (he ▸ hd)
    -- Every character that a step singles out is among those that are escaped.
    unfold step?
    split
    all_goals first
      | exact absurd rfl (hmeta _ (by decide))
      | simp [literal?_eq hs]

theorem run?_starred {first : Char} {others : List Char} (hs : s.flags = initialFlags false)
    (hr : s.rest = first :: others)
    (hstep : step? s first others = some (s.push item ('*' :: rest))) (hitem : item ≠ .flags)
    (hnext : rest.head? ≠ some '?') (fuel : Nat) :
    run? (fuel + 2) s = run? fuel (s.push (.repeated 0 none item) rest) := by
  rw [run?_cons hs hr, hstep, Option.bind_some, run?_cons (s := s.push item _) hs rfl,
    step?_star hitem hnext]
  rfl

theorem run?_token (hs : s.flags = initialFlags false) (hr : s.rest = token.spelling ++ rest)
    (hnext : rest.head? ≠ some '?') {fuel : Nat} (hfuel : s.rest.length ≤ fuel) :
    ∃ left, rest.length ≤ left ∧ run? fuel s = run? left (s.push token.expr rest) := by
  cases token with
  | anything =>
    have hr : s.rest = '.' :: '*' :: rest := hr
    simp only [hr, List.length_cons] at hfuel
    obtain ⟨left, rfl⟩ : ∃ left, fuel = left + 2 := ⟨fuel - 2, by omega⟩
    exact ⟨left, by omega, run?_starred hs hr (step?_dot hs) nofun hnext left⟩
  | segment =>
    have hr : s.rest = '[' :: '^' :: '/' :: ']' :: '*' :: rest := hr
    simp only [hr, List.length_cons] at hfuel
    obtain ⟨left, rfl⟩ : ∃ left, fuel = left + 2 := ⟨fuel - 2, by omega⟩
    exact ⟨left, by omega, run?_starred hs hr (step?_bracket hs) nofun hnext left⟩
  | literal c =>
    obtain ⟨first, others, he, hstep⟩ : ∃ first others, escaped c = first :: others ∧
        step? s first (others ++ rest) = some (s.push (.literal c) rest) := step?_escaped hs
    have hr : s.rest = first :: (others ++ rest) := by rw [hr, Token.spelling, he, List.cons_append]
    simp only [hr, List.length_cons, List.length_append] at hfuel
    obtain ⟨left, rfl⟩ : ∃ left, fuel = left + 1 := ⟨fuel - 1, by omega⟩
    refine ⟨left, by omega, ?_⟩
    rw [run?_cons hs hr, hstep]
    rfl

theorem head?_spelling_ne (token : Token) (rest : List Char) :
    (token.spelling ++ rest).head? ≠ some '?' := by
  cases token with
  | anything => simp [Token.spelling]
  | segment => simp [Token.spelling]
  | literal c =>
    rw [Token.spelling, escaped]
    split
    next => simp
    next hm =>
      rintro ⟨⟩
      exact hm (by decide)

theorem run?_spelled (hs : s.flags = initialFlags false)
    (hr : s.rest = route.flatMap Token.spelling ++ ['$']) {fuel : Nat}
    (hfuel : s.rest.length ≤ fuel) :
    run? fuel s = some { s with
      items := .look .textEnd :: ((route.map Token.expr).reverse ++ s.items), rest := [] } := by
  induction route generalizing s fuel with
  | nil =>
    rw [hr] at hfuel
    obtain ⟨left, rfl⟩ : ∃ left, fuel = left + 1 := ⟨fuel - 1, by simp at hfuel; omega⟩
    rw [run?_cons hs hr, step?_end hs, Option.bind_some, run?_nil (s := s.push _ []) hs rfl]
    rfl
  | cons token route ih =>
    have hr : s.rest = token.spelling ++ (route.flatMap Token.spelling ++ ['$']) := by
      rw [hr, List.flatMap_cons, List.append_assoc]
    have hnext : (route.flatMap Token.spelling ++ ['$']).head? ≠ some '?' := by
      cases route with
      | nil => simp
      | cons next route =>
        rw [List.flatMap_cons, List.append_assoc]
        exact head?_spelling_ne next _
    obtain ⟨left, hleft, hrun⟩ := run?_token hs hr hnext hfuel
    rw [hrun, ih (s := s.push token.expr _) hs rfl hleft]
    simp [State.push]

/-- The tokens between the ends of the text. -/
def whole (route : List Token) : List Expr :=
  .look .textStart :: (route.map Token.expr ++ [.look .textEnd])

theorem concat_whole (route : List Token) :
    Reader.concat (.look .textEnd :: ((route.map Token.expr).reverse ++ [.look .textStart])) =
      .concat (whole route) := by
  cases route <;> simp [Reader.concat, whole]

theorem ofText?_spelled {text : String}
    (h : text.toList = '^' :: (route.flatMap Token.spelling ++ ['$'])) :
    Expr.ofText? false text = some (.concat (whole route)) := by
  let start : Pattern.Reader.State := ⟨[], [], [], initialFlags false, [], text.toList⟩
  have hrun : run? text.toList.length start = some { start with
      items := .look .textEnd :: ((route.map Token.expr).reverse ++ [.look .textStart])
      rest := [] } := by
    rw [h, List.length_cons, run?_cons (s := start) rfl h, step?_start rfl, Option.bind_some]
    exact run?_spelled (s := start.push (.look .textStart) _) rfl rfl (Nat.le_refl _)
  calc Expr.ofText? false text
      = (run? text.toList.length start).bind fun s =>
          if s.outer.isEmpty then some s.expr else none := rfl
    _ = some (Reader.concat (.look .textEnd ::
          ((route.map Token.expr).reverse ++ [.look .textStart]))) := by
        rw [hrun]
        rfl
    _ = some (.concat (whole route)) := by rw [concat_whole]

theorem ofText?_expression (route : String) :
    Expr.ofText? false (expression route) = some (.concat (whole (tokens route.toList))) := by
  refine ofText?_spelled ?_
  rw [expression, String.toList_ofList, inner_eq_spelled, List.cons_append]

end

-- ---------------------------------------------------------------------------
-- Matching
-- ---------------------------------------------------------------------------

section
variable {token : Token} {route : List Token} {before behind : Option Char} {piece : List Char}

theorem matches_literal {c : Char} :
    (Token.literal c).expr.toPattern.Matches before piece behind ↔ piece = [c] := by
  simp only [Token.expr, Expr.toPattern, matches_one, CharSet.contains_single, beq_iff_eq]
  grind

theorem matches_token :
    token.expr.toPattern.Matches before piece behind ↔ token.Takes piece := by
  cases token with
  | literal c => exact matches_literal
  | anything | segment =>
    rw [Token.expr, Expr.toPattern_repeated_set, matches_star_one, takes_iff rfl]
    simp only [CharSet.contains_complement_single, Token.takes]

theorem matches_tokens :
    (Expr.sequence (route.map Token.expr ++ [.look .textEnd])).Matches before piece behind ↔
      Divides route piece ∧ behind = none := by
  induction route generalizing before piece with
  | nil =>
    simp [Expr.sequence, Expr.toPattern, matches_seq, matches_look, matches_empty, Divides, ahead,
      Look.holds]
  | cons token route ih =>
    simp only [List.map_cons, List.cons_append, Expr.sequence, matches_seq, matches_token, ih,
      Divides]
    constructor
    · rintro ⟨x, y, rfl, ht, hd, hbehind⟩
      exact ⟨⟨x, y, rfl, ht, hd⟩, hbehind⟩
    · rintro ⟨⟨x, y, rfl, ht, hd⟩, hbehind⟩
      exact ⟨x, y, rfl, ht, hd, hbehind⟩

theorem matches_whole : (Expr.concat (whole route)).toPattern.Matches before piece behind ↔
    before = none ∧ Divides route piece ∧ behind = none := by
  rw [Expr.toPattern, whole, Expr.sequence, matches_seq]
  simp only [Expr.toPattern, matches_look, Look.holds, Option.isNone_iff_eq_none, matches_tokens]
  constructor
  · rintro ⟨x, y, rfl, ⟨rfl, hbefore⟩, hd, hbehind⟩
    exact ⟨hbefore, hd, hbehind⟩
  · rintro ⟨hbefore, hd, hbehind⟩
    exact ⟨[], piece, rfl, ⟨rfl, hbefore⟩, hd, hbehind⟩

theorem occursIn_whole (route : List Token) (path : String) :
    (Expr.concat (whole route)).toPattern.occursIn path = true ↔ Divides route path.toList := by
  rw [Expr.occursIn_iff]
  constructor
  · rintro ⟨start, piece, rest, he, h⟩
    obtain ⟨hstart, hd, hrest⟩ := matches_whole.mp h
    obtain ⟨-, rfl⟩ := passed_eq_none_iff.mp hstart
    obtain ⟨-, rfl⟩ := ahead_eq_none_iff.mp hrest
    rwa [he, List.nil_append, List.append_nil]
  · intro hd
    exact ⟨[], path.toList, [], by simp, matches_whole.mpr ⟨rfl, hd, rfl⟩⟩

theorem occursIn_eq_covers (route path : String) :
    (Expr.concat (whole (tokens route.toList))).toPattern.occursIn path = covers route path := by
  rw [Bool.eq_iff_iff, occursIn_whole, covers_iff_divides]

end

-- ---------------------------------------------------------------------------
-- The limit
-- ---------------------------------------------------------------------------

/-- What a token adds to the size of a pattern. A star takes nearly all characters,
and states for each range of them. -/
def Token.size : Token → Nat
  | .literal c => Expr.stateSize * c.utf8Size
  | _ => 1068

/-- The size of the pattern of a route. -/
def size (route : List Token) : Nat :=
  2 * Expr.stateSize + (route.map Token.size).sum

section
variable {route : List Token}

theorem size_expr (token : Token) : token.expr.size = token.size := by
  cases token with
  | literal => rfl
  | anything => decide
  | segment => decide

theorem size_whole (route : List Token) : (Expr.concat (whole route)).size = size route := by
  have hitems : Expr.sizeAll (route.map Token.expr ++ [.look .textEnd]) =
      (route.map Token.size).sum + Expr.stateSize := by
    induction route with
    | nil => rfl
    | cons token rest ih =>
      rw [List.map_cons, List.cons_append, Expr.sizeAll, ih, size_expr, List.map_cons,
        List.sum_cons, Nat.add_assoc]
  have hlook : (Expr.look .textStart).size = Expr.stateSize := rfl
  rw [Expr.size, whole, Expr.sizeAll, hitems, hlook, size]
  omega

theorem depth_whole (route : List Token) : (Expr.concat (whole route)).depth ≤ Expr.depthLimit := by
  have htoken : ∀ token : Token, token.expr.depth ≤ 2 := by
    intro token
    cases token <;> simp [Token.expr, Expr.depth]
  have hitems : Expr.depthAll (route.map Token.expr ++ [.look .textEnd]) ≤ 2 := by
    induction route with
    | nil => simp [Expr.depthAll, Expr.depth]
    | cons token rest ih =>
      rw [List.map_cons, List.cons_append, Expr.depthAll]
      exact Nat.max_le.mpr ⟨htoken token, ih⟩
  simp only [whole, Expr.depth, Expr.depthAll, Expr.depthLimit]
  omega

theorem pattern?_eq (route : String) : pattern? route =
    if size (tokens route.toList) ≤ Expr.sizeLimit then
      some (Expr.concat (whole (tokens route.toList))).toPattern
    else none := by
  rw [pattern?, Pattern.ofText?, ofText?_expression, Option.bind_some, Expr.toPattern?, size_whole]
  simp [depth_whole]

theorem pattern?_eq_none_iff {route : String} :
    pattern? route = none ↔ Expr.sizeLimit < size (tokens route.toList) := by
  rw [pattern?_eq, ite_eq_right_iff, ← Nat.not_le]
  simp

theorem length_tokens_le (route : List Char) : (tokens route).length ≤ route.length := by
  fun_induction tokens route <;> simp only [List.length_cons, List.length_nil] <;> omega

theorem size_le (route : List Token) : size route ≤ 64 + 1068 * route.length := by
  have htoken : ∀ token : Token, token.size ≤ 1068 := by
    intro token
    cases token with
    | literal c =>
      have hbytes := c.utf8Size_le_four
      simp only [Token.size, Expr.stateSize]
      omega
    | _ => exact Nat.le_refl _
  have hsum : (route.map Token.size).sum ≤ 1068 * route.length := by
    induction route with
    | nil => exact Nat.le_refl _
    | cons token rest ih =>
      have hfirst := htoken token
      rw [List.map_cons, List.sum_cons, List.length_cons]
      omega
  exact Nat.add_le_add_left hsum _

/-- Routes of ordinary length keep within the limit. -/
theorem pattern?_ne_none {route : String} (h : route.length ≤ 9800) : pattern? route ≠ none := by
  have hsize := size_le (tokens route.toList)
  have htokens := length_tokens_le route.toList
  rw [String.length_toList] at htokens
  rw [ne_eq, pattern?_eq_none_iff, Expr.sizeLimit]
  omega

end

end Route

namespace Endpoint

/-- What a valid endpoint covers is what its compiled pattern matches. -/
theorem exists_pattern_of_validate {e : Endpoint} (h : e.validate = .ok ()) :
    ∃ pattern, Route.pattern? e.route = some pattern ∧
      ∀ path, pattern.occursIn path = Route.covers e.route path := by
  obtain ⟨pattern, hpattern⟩ : ∃ pattern, Route.pattern? e.route = some pattern := by
    cases hp : Route.pattern? e.route with
    | some pattern => exact ⟨pattern, rfl⟩
    | none =>
      simp only [validate, hp, Option.isNone_none, Bool.or_true, if_true] at h
      split at h <;> cases h
  refine ⟨pattern, hpattern, fun path => ?_⟩
  rw [Route.pattern?_eq] at hpattern
  split at hpattern
  · obtain rfl := Option.some.inj hpattern
    exact Route.occursIn_eq_covers e.route path
  · cases hpattern

/-- A route covers just the paths that fall into pieces for its tokens. As a pattern
it can be read, and occurs in the same paths; it is compiled unless it is too large. -/
theorem covers_iff_glob (e : Endpoint) (verb path : String) :
    (Route.covers e.route path = true ↔
      Route.Divides (Route.tokens e.route.toList) path.toList) ∧
    (e.covers verb path = true ↔
      e.answersTo verb = true ∧ Route.Divides (Route.tokens e.route.toList) path.toList) ∧
    ∃ expr, Pattern.Expr.ofText? false (Route.expression e.route) = some expr ∧
      expr.toPattern.occursIn path = Route.covers e.route path ∧
      Route.pattern? e.route =
        if Route.size (Route.tokens e.route.toList) ≤ Pattern.Expr.sizeLimit then
          some expr.toPattern
        else none := by
  have hroute : Route.covers e.route path = true ↔
      Route.Divides (Route.tokens e.route.toList) path.toList := Route.covers_iff_divides
  refine ⟨hroute, ?_, _, Route.ofText?_expression e.route, Route.occursIn_eq_covers e.route path,
    Route.pattern?_eq e.route⟩
  rw [covers_iff, hroute]

end Endpoint

end QueryGuard
