import Mathlib
import QueryGuard.Policy.Endpoint

/-!
# What routes cover

A route covers a path if the path falls into pieces, one for each token of the
route. From this it follows what two stars cover that one does not, and what
they do not: they stop at the end of a line, which a single star goes beyond.
-/

namespace QueryGuard

namespace Route

-- ---------------------------------------------------------------------------
-- Pieces of a path
-- ---------------------------------------------------------------------------

/-- The pieces of a path that a token stands for. -/
def Token.Takes : Token → List Char → Prop
  | .anything, piece => '\n' ∉ piece
  | .segment, piece => '/' ∉ piece
  | .literal c, piece => piece = [c]

/-- The path falls into pieces, one for each token in turn. -/
def Divides : List Token → List Char → Prop
  | [], path => path = []
  | token :: route, path =>
    ∃ piece rest, path = piece ++ rest ∧ token.Takes piece ∧ Divides route rest

section
variable {token : Token} {route first second : List Token} {path : List Char} {c wanted : Char}

theorem divides_literal_cons : Divides (.literal wanted :: route) (c :: path) ↔
    c = wanted ∧ Divides route path := by
  constructor
  · rintro ⟨piece, rest, he, rfl, h⟩
    obtain ⟨rfl, rfl⟩ := List.cons.inj he
    exact ⟨rfl, h⟩
  · rintro ⟨rfl, h⟩
    exact ⟨[c], path, rfl, rfl, h⟩

theorem not_divides_literal_nil : ¬Divides (.literal wanted :: route) [] := by
  rintro ⟨piece, rest, he, rfl, -⟩
  cases he

def Token.isWildcard : Token → Bool
  | .literal _ => false
  | _ => true

theorem takes_iff (hw : token.isWildcard = true) {piece : List Char} :
    token.Takes piece ↔ ∀ c ∈ piece, token.takes c = true := by
  cases token with
  | literal => cases hw
  | anything | segment =>
    simp only [Token.Takes, Token.takes, bne_iff_ne, ne_eq]
    exact ⟨fun h c hc he => h (he ▸ hc), fun h hc => h _ hc rfl⟩

theorem divides_wildcard_nil (hw : token.isWildcard = true) :
    Divides (token :: route) [] ↔ Divides route [] := by
  constructor
  · rintro ⟨piece, rest, he, -, h⟩
    obtain ⟨-, rfl⟩ := List.nil_eq_append_iff.mp he
    exact h
  · exact fun h => ⟨[], [], rfl, (takes_iff hw).mpr (by simp), h⟩

theorem divides_wildcard_cons (hw : token.isWildcard = true) :
    Divides (token :: route) (c :: path) ↔
      Divides route (c :: path) ∨ token.takes c = true ∧ Divides (token :: route) path := by
  constructor
  · rintro ⟨piece, rest, he, ht, h⟩
    have ht := (takes_iff hw).mp ht
    cases piece with
    | nil => exact .inl (he ▸ h)
    | cons d piece =>
      obtain ⟨rfl, rfl⟩ := List.cons.inj he
      obtain ⟨hd, ht⟩ := List.forall_mem_cons.mp ht
      exact .inr ⟨hd, piece, rest, rfl, (takes_iff hw).mpr ht, h⟩
  · rintro (h | ⟨hc, piece, rest, rfl, ht, h⟩)
    · exact ⟨[], c :: path, rfl, (takes_iff hw).mpr (by simp), h⟩
    · refine ⟨c :: piece, rest, rfl, (takes_iff hw).mpr ?_, h⟩
      exact List.forall_mem_cons.mpr ⟨hc, (takes_iff hw).mp ht⟩

theorem divides_append : Divides (first ++ second) path ↔
    ∃ start rest, path = start ++ rest ∧ Divides first start ∧ Divides second rest := by
  induction first generalizing path with
  | nil =>
    constructor
    · exact fun h => ⟨[], path, rfl, rfl, h⟩
    · rintro ⟨start, rest, rfl, rfl, h⟩
      exact h
  | cons token first ih =>
    constructor
    · rintro ⟨piece, others, rfl, ht, h⟩
      obtain ⟨start, rest, rfl, hf, hs⟩ := ih.mp h
      exact ⟨piece ++ start, rest, by simp, ⟨piece, start, rfl, ht, hf⟩, hs⟩
    · rintro ⟨start, rest, rfl, ⟨piece, others, rfl, ht, hf⟩, hs⟩
      exact ⟨piece, others ++ rest, by simp, ht, ih.mpr ⟨others, rest, rfl, hf, hs⟩⟩

theorem divides_literals {text : List Char} :
    Divides (text.map Token.literal) path ↔ path = text := by
  induction text generalizing path with
  | nil => exact Iff.rfl
  | cons c text ih =>
    cases path with
    | nil => exact iff_of_false not_divides_literal_nil nofun
    | cons d path => rw [List.map_cons, divides_literal_cons, ih, List.cons.injEq]

end

-- ---------------------------------------------------------------------------
-- Answers for the ends of a path
-- ---------------------------------------------------------------------------

/-- One answer for each end of the path, longest first: does it have the
property? -/
def Answers (property : List Char → Prop) : List Char → List Bool → Prop
  | [], answers => ∃ answer, answers = [answer] ∧ (answer = true ↔ property [])
  | c :: path, answers => ∃ answer later, answers = answer :: later ∧
      (answer = true ↔ property (c :: path)) ∧ Answers property path later

section
variable {property : List Char → Prop} {path : List Char} {answers : List Bool}
  {route : List Token}

theorem Answers.head (h : Answers property path answers) :
    answers.headD false = true ↔ property path := by
  cases path with
  | nil =>
    obtain ⟨answer, rfl, ha⟩ := h
    exact ha
  | cons c path =>
    obtain ⟨answer, later, rfl, ha, -⟩ := h
    exact ha

theorem extend_literal_answers (wanted : Char) (h : Answers (Divides route) path answers) :
    Answers (Divides (.literal wanted :: route)) path
      (Token.extend (.literal wanted) path answers) := by
  induction path generalizing answers with
  | nil => exact ⟨false, rfl, by simp [not_divides_literal_nil]⟩
  | cons c path ih =>
    obtain ⟨answer, later, rfl, -, hlater⟩ := h
    refine ⟨_, _, rfl, ?_, ih hlater⟩
    rw [Bool.and_eq_true, beq_iff_eq, divides_literal_cons]
    exact and_congr_right fun _ => hlater.head

theorem extend_wildcard_answers {token : Token} (hw : token.isWildcard = true)
    (h : Answers (Divides route) path answers) :
    Answers (Divides (token :: route)) path (token.extend path answers) := by
  induction path generalizing answers with
  | nil =>
    refine ⟨answers.headD false, ?_, h.head.trans (divides_wildcard_nil hw).symm⟩
    cases token with
    | literal => cases hw
    | _ => rfl
  | cons c path ih =>
    obtain ⟨answer, later, rfl, ha, hlater⟩ := h
    have hrest := ih hlater
    refine ⟨answer || (token.takes c && (token.extend path later).headD false), _, ?_, ?_, hrest⟩
    · cases token with
      | literal => cases hw
      | _ => rfl
    · rw [divides_wildcard_cons hw, Bool.or_eq_true, Bool.and_eq_true, ha, hrest.head]

/-- By induction on the route, from its end: each token extends the answers for
the tokens behind it. -/
theorem fits_answers (path : List Char) (route : List Token) :
    Answers (Divides route) path (fits path route) := by
  induction route with
  | nil =>
    induction path with
    | nil => exact ⟨true, rfl, by simp [Divides]⟩
    | cons c path ih => exact ⟨false, _, rfl, by simp [Divides], ih⟩
  | cons token route ih =>
    cases token with
    | literal wanted => exact extend_literal_answers wanted ih
    | anything | segment => exact extend_wildcard_answers rfl ih

end

theorem covers_iff_divides {route path : String} :
    covers route path = true ↔ Divides (tokens route.toList) path.toList :=
  (fits_answers ..).head

-- ---------------------------------------------------------------------------
-- Stars
-- ---------------------------------------------------------------------------

theorem tokens_cons {c : Char} (hc : c ≠ '*') (text : List Char) :
    tokens (c :: text) = .literal c :: tokens text := by
  rw [tokens]
  · rintro rest rfl
    exact absurd rfl hc
  · rintro rfl
    exact absurd rfl hc

theorem tokens_star {text : List Char} (h : text.head? ≠ some '*') :
    tokens ('*' :: text) = .segment :: tokens text := by
  rw [tokens]
  rintro rest rfl
  exact h rfl

theorem tokens_eq_literals {text : List Char} (h : '*' ∉ text) :
    tokens text = text.map .literal := by
  induction text with
  | nil => rfl
  | cons c text ih =>
    obtain ⟨hc, htext⟩ := List.ne_and_not_mem_of_not_mem_cons h
    rw [tokens_cons hc.symm, ih htext, List.map_cons]

/-- Between these texts a star is read by itself: no star is left over before it
that would make two with it, and none follows. -/
def Lone (before after : List Char) : Prop :=
  (tokens before).getLast? ≠ some .segment ∧ after.head? ≠ some '*'

theorem tokens_append {before : List Char} (h : (tokens before).getLast? ≠ some .segment)
    (after : List Char) : tokens (before ++ after) = tokens before ++ tokens after := by
  have hlast : ∀ {token : Token} {route : List Token},
      (token :: route).getLast? ≠ some .segment → route.getLast? ≠ some .segment := by
    intro token route hne he
    simp [List.getLast?_cons, he] at hne
  fun_induction tokens before with
  | case1 rest ih =>
    have ih := ih (hlast h)
    simp only [List.cons_append, tokens, ih]
  | case2 rest hnone ih =>
    cases rest with
    | nil => exact absurd rfl h
    | cons c rest =>
      -- The star is not the last character, so that what follows cannot pair it.
      have hc : ((c :: rest) ++ after).head? ≠ some '*' := by
        rintro ⟨⟩
        exact hnone rest rfl
      rw [List.cons_append, tokens_star hc, ih (hlast h), List.cons_append]
  | case3 c rest hstar hc ih =>
    rw [List.cons_append, tokens_cons hc, ih (hlast h), List.cons_append]
  | case4 => rfl

theorem tokens_lone_star {before after : List Char} (h : Lone before after) :
    tokens (before ++ '*' :: after) = tokens before ++ .segment :: tokens after := by
  rw [tokens_append h.1, tokens_star h.2]

theorem tokens_two_stars {before after : List Char} (h : Lone before after) :
    tokens (before ++ '*' :: '*' :: after) = tokens before ++ .anything :: tokens after := by
  rw [tokens_append h.1, tokens]

section
variable {route before after path : String} {token : Token}

theorem covers_between
    (h : tokens route.toList = tokens before.toList ++ token :: tokens after.toList) :
    covers route path = true ↔ ∃ first piece rest : String, path = first ++ piece ++ rest ∧
      covers before first = true ∧ token.Takes piece.toList ∧ covers after rest = true := by
  simp only [covers_iff_divides, h]
  rw [divides_append]
  constructor
  · rintro ⟨first, _, hpath, hfirst, piece, rest, rfl, htakes, hrest⟩
    refine ⟨.ofList first, .ofList piece, .ofList rest, ?_, ?_⟩
    · rw [← String.toList_inj]
      simpa using hpath
    · simpa using ⟨hfirst, htakes, hrest⟩
  · rintro ⟨first, piece, rest, rfl, hfirst, htakes, hrest⟩
    exact ⟨first.toList, _, by simp, hfirst, piece.toList, rest.toList, rfl, htakes, hrest⟩

theorem covers_lone_star (h : Lone before.toList after.toList) :
    covers (before ++ "*" ++ after) path = true ↔
      ∃ first piece rest : String, path = first ++ piece ++ rest ∧
        covers before first = true ∧ '/' ∉ piece.toList ∧ covers after rest = true := by
  have htokens : tokens (before ++ "*" ++ after).toList =
      tokens before.toList ++ .segment :: tokens after.toList := by
    simp [tokens_lone_star h]
  exact covers_between htokens

theorem covers_two_stars (h : Lone before.toList after.toList) :
    covers (before ++ "**" ++ after) path = true ↔
      ∃ first piece rest : String, path = first ++ piece ++ rest ∧
        covers before first = true ∧ '\n' ∉ piece.toList ∧ covers after rest = true := by
  have htokens : tokens (before ++ "**" ++ after).toList =
      tokens before.toList ++ .anything :: tokens after.toList := by
    simp [tokens_two_stars h]
  exact covers_between htokens

theorem covers_text (h : '*' ∉ route.toList) : covers route path = true ↔ path = route := by
  rw [covers_iff_divides, tokens_eq_literals h, divides_literals, String.toList_inj]

theorem lone_of_text {before after : List Char} (h : '*' ∉ before)
    (ha : after.head? ≠ some '*') : Lone before after := by
  refine ⟨?_, ha⟩
  rw [tokens_eq_literals h, List.getLast?_map]
  simp

theorem covers_beneath (h : '*' ∉ before.toList) :
    covers (before ++ "**") path = true ↔ ∃ rest : String, path = before ++ rest ∧
      '\n' ∉ rest.toList := by
  have hlone : Lone before.toList "".toList := lone_of_text h nofun
  have hempty : '*' ∉ "".toList := List.not_mem_nil
  rw [← String.append_empty (s := before ++ "**"), covers_two_stars hlone]
  simp only [covers_text h, covers_text hempty]
  constructor
  · rintro ⟨_, piece, _, rfl, rfl, hpiece, rfl⟩
    exact ⟨piece, String.append_empty, hpiece⟩
  · rintro ⟨rest, rfl, hrest⟩
    exact ⟨before, rest, "", String.append_empty.symm, rfl, hrest, rfl⟩

theorem covers_widened (hl : Lone before.toList after.toList) (hline : '\n' ∉ path.toList)
    (h : covers (before ++ "*" ++ after) path = true) :
    covers (before ++ "**" ++ after) path = true := by
  obtain ⟨first, piece, rest, rfl, hfirst, -, hrest⟩ := (covers_lone_star hl).mp h
  refine (covers_two_stars hl).mpr ⟨first, piece, rest, rfl, hfirst, fun hm => hline ?_, hrest⟩
  simp [hm]

end

end Route

namespace Endpoint

theorem covers_iff {e : Endpoint} {verb path : String} :
    e.covers verb path = true ↔ e.answersTo verb = true ∧ Route.covers e.route path = true :=
  Bool.and_eq_true_iff

theorem answersTo_self (verb route : String) : answersTo ⟨verb, route⟩ verb = true := by
  simp [answersTo]

/-- Two stars cover what is beneath a text exactly as far as the line goes. Where
they take the place of a single star, they go on covering a path exactly if it can
be divided so that their piece has no line feed. -/
theorem covers_stars_iff (verb : String) :
    (∀ text rest : String, '*' ∉ text.toList →
      (covers ⟨verb, text ++ "**"⟩ verb (text ++ rest) = true ↔ '\n' ∉ rest.toList)) ∧
    ∀ before after : String, Route.Lone before.toList after.toList → ∀ asked path : String,
      covers ⟨verb, before ++ "*" ++ after⟩ asked path = true →
      (covers ⟨verb, before ++ "**" ++ after⟩ asked path = true ↔
        ∃ first piece rest : String, path = first ++ piece ++ rest ∧
          Route.covers before first = true ∧ '\n' ∉ piece.toList ∧
          Route.covers after rest = true) ∧
      ('\n' ∉ path.toList → covers ⟨verb, before ++ "**" ++ after⟩ asked path = true) := by
  refine ⟨fun text rest htext => ?_, fun before after hlone asked path h => ?_⟩
  · rw [covers_iff, and_iff_right (answersTo_self ..), Route.covers_beneath htext]
    constructor
    · rintro ⟨other, he, hline⟩
      rwa [(String.append_right_inj text).mp he]
    · exact fun hline => ⟨rest, rfl, hline⟩
  · obtain ⟨hverb, hroute⟩ := covers_iff.mp h
    have hanswers : answersTo ⟨verb, before ++ "**" ++ after⟩ asked = true := hverb
    rw [covers_iff, and_iff_right hanswers, ← Route.covers_two_stars hlone]
    exact ⟨Iff.rfl, fun hline => Route.covers_widened hlone hline hroute⟩

/-- What is further down is covered beneath a collection, and beneath each member of
it where two stars stand for the member. -/
theorem covers_stars_documents :
    ('*' ∉ "/documents/".toList ∧
      (covers ⟨"GET", "/documents/" ++ "**"⟩ "GET" ("/documents/" ++ "42/comments") = true ↔
        '\n' ∉ "42/comments".toList)) ∧
    Route.Lone "/documents/".toList "/comments".toList ∧
      covers ⟨"GET", "/documents/" ++ "*" ++ "/comments"⟩ "get" "/documents/42/comments" = true ∧
      '\n' ∉ "/documents/42/comments".toList ∧
      covers ⟨"GET", "/documents/" ++ "**" ++ "/comments"⟩ "get" "/documents/42/comments" =
        true := by
  have htext : '*' ∉ "/documents/".toList := by decide
  have hlone : Route.Lone "/documents/".toList "/comments".toList :=
    Route.lone_of_text htext (by decide)
  have hcovered : covers ⟨"GET", "/documents/" ++ "*" ++ "/comments"⟩ "get"
      "/documents/42/comments" = true := by
    cbv
  have hline : '\n' ∉ "/documents/42/comments".toList := by decide
  obtain ⟨hbeneath, hwidened⟩ := covers_stars_iff "GET"
  exact ⟨⟨htext, hbeneath "/documents/" "42/comments" htext⟩, hlone, hcovered, hline,
    (hwidened "/documents/" "/comments" hlone "get" _ hcovered).2 hline⟩

/-- A line feed ends what two stars cover, and a single star goes beyond it. -/
theorem covers_stars_line :
    '*' ∉ "/documents/".toList ∧
      covers ⟨"GET", "/documents/" ++ "**"⟩ "GET" ("/documents/" ++ "\n") = false ∧
      Route.Lone "/documents/".toList "".toList ∧
      covers ⟨"GET", "/documents/" ++ "*" ++ ""⟩ "GET" "/documents/\n" = true ∧
      covers ⟨"GET", "/documents/" ++ "**" ++ ""⟩ "GET" "/documents/\n" = false := by
  have htext : '*' ∉ "/documents/".toList := by decide
  exact ⟨htext, by cbv, Route.lone_of_text htext nofun, by cbv, by cbv⟩

end Endpoint

end QueryGuard
