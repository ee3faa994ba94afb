import QueryGuard.Proofs.RoundTrip
import QueryGuard.Request.Context

/-!
# Records as documents

A record that is written and then read comes back as it was. What decides this is
each field by itself: one that is left out is one that reads as its default, and an
optional field is never written as null. So every policy and every matched policy is
restored, and a request context exactly if its queries are such as documents give
(`records_restored`).
-/

namespace QueryGuard

-- ---------------------------------------------------------------------------
-- Fields
-- ---------------------------------------------------------------------------

namespace Json

/-- What is written is read as it was. -/
def Restores {α : Type} (read : Json → Option α) (write : α → Json) : Prop :=
  ∀ a, read (write a) = some a

section
variable {α : Type} {read : Json → Option α} {write : α → Json} {field name : String}

theorem get?_member (value : Option α) :
    Members.get? (member field write value) name =
      if name = field then value.map write else none := by
  cases value with
  | none => simp [member, Members.get?]
  | some a => rw [member, Members.get?_cons]; rfl

theorem get?_unless (omitted : Prop) [Decidable omitted] (value : Json) :
    Members.get? (if omitted then [] else [(field, value)]) name =
      if name = field then (if omitted then none else some value) else none := by
  split
  · simp [Members.get?]
  · exact Members.get?_cons ..

theorem Restores.listOf? (h : Restores read write) (items : List α) :
    listOf? read (.array (items.map write)) = some items := by
  induction items with
  | nil => rfl
  | cons item rest ih =>
    rw [Json.listOf?] at ih ⊢
    rw [List.map_cons, List.mapM_cons, h item, ih]
    rfl

theorem optional_map_iff (hnull : read .null = none) {value : Option α} :
    optional read (value.map write) = some value ↔
      ∀ a, value = some a → read (write a) = some a := by
  cases value with
  | none => exact iff_of_true rfl nofun
  | some a =>
    rw [Option.map_some]
    by_cases hw : write a = .null
    · simp [hw, optional, hnull]
    · have hread : optional read (some (write a)) = (read (write a)).map some := by
        unfold optional
        split
        · next h => cases h
        · next h => exact absurd (Option.some.inj h) hw
        · next h => rw [Option.some.inj h]
      simp [hread]

theorem Restores.optional (h : Restores read write) (hnull : read .null = none)
    (value : Option α) : optional read (value.map write) = some value :=
  (optional_map_iff hnull).mpr fun a _ => h a

theorem Restores.orDefault (h : Restores read write) {default a : α} {omitted : Bool}
    (hdefault : omitted = true → a = default) :
    orDefault default read (if omitted then none else some (write a)) = some a := by
  cases omitted with
  | true => rw [hdefault rfl]; rfl
  | false => exact h a

end

theorem restores_string : Restores asString? .string := fun _ => rfl

theorem restores_object : Restores asObject? .object := fun _ => rfl

theorem restores_strings : Restores stringList? ofStrings := restores_string.listOf?

theorem restores_smallInteger :
    Restores smallInteger? fun n : Int32 => .number (.integer n.toInt) := by
  intro n
  have hlow := n.le_toInt
  have hhigh := n.toInt_lt
  have hfits : (decide (-2147483648 ≤ n.toInt) && decide (n.toInt < 2147483648)) = true := by
    simp only [Bool.and_eq_true, decide_eq_true_eq]
    omega
  rw [smallInteger?, if_pos hfits, Int32.ofInt_toInt]

end Json

-- ---------------------------------------------------------------------------
-- Rules
-- ---------------------------------------------------------------------------

theorem Projection.restores : Json.Restores ofJson? toJson := by
  intro p
  have hfields : p.toJson.fields? ["include", "exclude"] = some [p.included.map Json.ofStrings,
      if p.excluded.isEmpty then none else some (Json.ofStrings p.excluded)] := by
    simp [toJson, Json.fields?, Members.get?_append, Json.get?_member, Json.get?_unless]
  simp only [ofJson?, hfields, Option.bind_eq_bind, Option.bind_some]
  rw [Json.restores_strings.optional rfl, Json.restores_strings.orDefault List.isEmpty_iff.mp]
  rfl

theorem Endpoint.restores : Json.Restores ofJson? toJson := fun _ => rfl

theorem Condition.restores : Json.Restores ofJson? toJson := fun _ => rfl

theorem QueryRule.restores : Json.Restores ofJson? toJson := by
  intro r
  have hfields : r.toJson.fields? ["query", "env", "conditions", "projection"] =
      some [some r.query, some (.object r.env), some (.array (r.conditions.map Condition.toJson)),
        r.projection.map Projection.toJson] := by
    simp [toJson, Json.fields?, Members.get?_cons, Json.get?_member]
  simp only [ofJson?, hfields, Option.bind_eq_bind, Option.bind_some, Json.orDefault]
  rw [Condition.restores.listOf?, Projection.restores.optional rfl]
  rfl

theorem RuleSet.restores : Json.Restores ofJson? toJson := by
  intro r
  have hfields : r.toJson.fields? ["endpoints", "env", "conditions", "projection", "query"] =
      some [some (.array (r.endpoints.map Endpoint.toJson)), some (.object r.env),
        some (.array (r.conditions.map Condition.toJson)), r.projection.map Projection.toJson,
        some r.query] := by
    simp [toJson, Json.fields?, Members.get?_append, Members.get?_cons, Members.get?_nil,
      Json.get?_member]
  simp only [ofJson?, hfields, Option.bind_eq_bind, Option.bind_some, Json.orDefault]
  rw [Endpoint.restores.listOf?, Condition.restores.listOf?, Projection.restores.optional rfl]
  rfl

-- ---------------------------------------------------------------------------
-- Policies
-- ---------------------------------------------------------------------------

theorem MatchedPolicy.restores : Json.Restores ofJson? toJson := by
  intro p
  have hfields : p.toJson.fields? ["name", "env", "rules"] =
      some [some (.string p.name), some (.object p.env),
        some (.array (p.rules.map QueryRule.toJson))] := rfl
  simp only [ofJson?, hfields, Option.bind_eq_bind, Option.bind_some, Json.orDefault]
  rw [QueryRule.restores.listOf?]
  rfl

theorem Policy.restores : Json.Restores ofJson? toJson := by
  intro p
  have hfields : p.toJson.fields?
      ["id", "appId", "name", "description", "active", "priority", "selection", "config"] =
      some [some (.string p.id), some (.string p.app), some (.string p.name),
        p.description.map .string, some (.bool p.active),
        some (.number (.integer p.priority.toInt)),
        if p.selection.isNull then none else some p.selection,
        some (.array (p.config.map RuleSet.toJson))] := by
    simp [toJson, Json.fields?, Members.get?_append, Members.get?_cons, Members.get?_nil,
      Json.get?_member, Json.get?_unless]
  have hselection : (if p.selection.isNull then none else some p.selection).getD .null =
      p.selection := by
    cases p.selection <;> rfl
  simp only [ofJson?, hfields, Option.bind_eq_bind, Option.bind_some, Json.orDefault, hselection]
  rw [Json.restores_string.optional rfl, Json.restores_smallInteger, RuleSet.restores.listOf?]
  rfl

-- ---------------------------------------------------------------------------
-- Request contexts
-- ---------------------------------------------------------------------------

theorem Principal.restores : Json.Restores ofJson? toJson := by
  intro p
  have hfields : p.toJson.fields? ["id", "attributes"] = some [some (.string p.id),
      if p.attributes.isEmpty then none else some (.object p.attributes)] := by
    simp [toJson, Json.fields?, Members.get?_cons, Json.get?_unless]
  simp only [ofJson?, hfields, Option.bind_eq_bind, Option.bind_some]
  rw [Json.restores_object.orDefault List.isEmpty_iff.mp]
  simp only [Json.required, Option.bind_some, Json.asString?, ofAttributes,
    p.ascending.ascending_eq]
  rfl

theorem Query.ofJson?_eq_some_iff {value : Json} {q : Query} :
    Query.ofJson? value = some q ↔ Query.ofJson value = .ok q := by
  rw [Query.ofJson?]
  cases Query.ofJson value <;> simp [Except.toOption]

theorem Query.optional_iff {query : Option Query} :
    Json.optional Query.ofJson? (query.map Query.toJson) = some query ↔
      ∀ q, query = some q → ∃ value, Query.ofJson value = .ok q := by
  have hnull : Query.ofJson? .null = none := rfl
  simp only [Json.optional_map_iff hnull, Query.ofJson?_eq_some_iff, Query.ofJson_toJson_iff,
    Query.exists_ofJson_iff]

namespace RequestContext

theorem bodyOfJson?_member (query : Option Query) :
    bodyOfJson? (.object (Json.member "query" Query.toJson query)) =
      Json.optional Query.ofJson? (query.map Query.toJson) := by
  cases query <;> rfl

theorem restores_iff {ctx : RequestContext} :
    ofJson? ctx.toJson = some ctx ↔
      Json.optional Query.ofJson? (ctx.query.map Query.toJson) = some ctx.query ∧
        Json.optional Query.ofJson? (ctx.accessQuery.map Query.toJson) = some ctx.accessQuery := by
  have hfields : ctx.toJson.fields?
      ["authUser", "authApp", "body", "accessControlQuery", "accessControlProjection"] =
      some [ctx.user.map Principal.toJson, some (.string ctx.app),
        some (.object (Json.member "query" Query.toJson ctx.query)),
        ctx.accessQuery.map Query.toJson, ctx.accessProjection.map Projection.toJson] := by
    simp [toJson, Json.fields?, Members.get?_append, Members.get?_cons, Json.get?_member]
  have hcomplete : isComplete ctx.toJson = true := rfl
  simp only [ofJson?, hfields, Option.bind_eq_bind, Option.bind_some, Json.orDefault, hcomplete,
    Bool.not_true, Bool.false_eq_true, if_false]
  rw [Principal.restores.optional rfl, Projection.restores.optional rfl, bodyOfJson?_member]
  simp only [Json.required, Json.asString?, Option.bind_some, Option.bind_eq_some_iff,
    Option.pure_def, Option.some.injEq]
  constructor
  · rintro ⟨query, hquery, accessQuery, haccess, hctx⟩
    obtain rfl : query = ctx.query := congrArg RequestContext.query hctx
    obtain rfl : accessQuery = ctx.accessQuery := congrArg RequestContext.accessQuery hctx
    exact ⟨hquery, haccess⟩
  · rintro ⟨hquery, haccess⟩
    exact ⟨_, hquery, _, haccess, rfl⟩

end RequestContext

/-- Every policy and every matched policy is read as it was written. A request context
is, exactly if each of its queries is read from some document. -/
theorem records_restored :
    (∀ p : Policy, Policy.ofJson? p.toJson = some p) ∧
    (∀ p : MatchedPolicy, MatchedPolicy.ofJson? p.toJson = some p) ∧
    ∀ ctx : RequestContext, RequestContext.ofJson? ctx.toJson = some ctx ↔
      ∀ q, ctx.query = some q ∨ ctx.accessQuery = some q → ∃ value, Query.ofJson value = .ok q := by
  refine ⟨Policy.restores, MatchedPolicy.restores, fun ctx => ?_⟩
  rw [RequestContext.restores_iff, Query.optional_iff, Query.optional_iff]
  simp only [or_imp, forall_and]

/-- Parts that are absent, empty and null, and a gathered query with a group. -/
theorem records_restored_parts :
    let rules : RuleSet := ⟨[⟨"GET", "/notes/**"⟩], [("owner", .null)], [⟨.null, "@eq", .array []⟩],
      some ⟨none, []⟩, .null⟩
    let policy : Policy := ⟨"", "notes", "own", some "", false, -1, .null, [.blank, rules]⟩
    let matched : MatchedPolicy := ⟨"own", [], [rules.toQueryRule, .ofQuery (.object [])]⟩
    let query : Query := ⟨[("title", .literal (.string "x"))]⟩
    let own : Query := ⟨[("owner", .constraint ⟨[("$eq", .literal .null)]⟩)]⟩
    let access : Query := ⟨[("$or", .group .or [own, .empty])]⟩
    let ctx : RequestContext := ⟨some (.ofId "ann"), "notes", some query, some access,
      some ⟨some [], ["secret"]⟩⟩
    Policy.ofJson? policy.toJson = some policy ∧
      MatchedPolicy.ofJson? matched.toJson = some matched ∧
      RequestContext.ofJson? ctx.toJson = some ctx := by
  intro rules policy matched query own access ctx
  obtain ⟨hpolicies, hmatched, hcontexts⟩ := records_restored
  refine ⟨hpolicies policy, hmatched matched, (hcontexts ctx).mpr fun q hq => ?_⟩
  rcases hq with hq | hq <;> obtain rfl := Option.some.inj hq
  · exact ⟨query.toJson, rfl⟩
  · exact ⟨access.toJson, rfl⟩

end QueryGuard
