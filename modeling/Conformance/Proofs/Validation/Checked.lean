import Conformance.Proofs.Session.Run
import Conformance.Proofs.Validation.Apart
import Conformance.Session.Validation

/-!
# Schemas with more checks

A copy of a schema with more checks keeps all that the schema asks for and asks for more behind it.
The rules that the copy derives are those of the schema followed by the new ones, so its report is
the report of the schema followed by what the new rules say of the value itself. A schema that asks
for nothing is no exception: its report is empty, and the copy is looked at for its checks.

Adding checks makes a schema and leaves the old one; a session notices no more than that a number
was given away.
-/
namespace Conformance

/-! ### What a copy asks for -/

namespace Schema

variable (schema : Schema) (more : List Constraint)

@[simp] theorem kind?_withChecks : (schema.withChecks more).kind? = schema.kind? := rfl

@[simp] theorem properties_withChecks : (schema.withChecks more).properties = schema.properties :=
  rfl

@[simp] theorem items?_withChecks : (schema.withChecks more).items? = schema.items? := rfl

@[simp] theorem bounds_withChecks : (schema.withChecks more).bounds = schema.bounds := rfl

@[simp] theorem checks_withChecks : (schema.withChecks more).checks = schema.checks ++ more := rfl

@[simp] theorem property?_withChecks (name : Text) :
    (schema.withChecks more).property? name = schema.property? name := rfl

/-- A copy counts required names anew, and finds each of them once already. -/
@[simp] theorem required_withChecks : (schema.withChecks more).required = schema.required :=
  Named.eraseDups_of_nodup (required_nodup schema)

theorem constraints_withChecks :
    (schema.withChecks more).constraints = schema.constraints ++ more :=
  (List.append_assoc ..).symm

theorem rulesOn_withChecks (kind : Kind) :
    (schema.withChecks more).rulesOn kind =
      schema.rulesOn kind ++ more.filter fun rule => rule.accepts kind := by
  rw [rulesOn_eq, rulesOn_eq, constraints_withChecks, List.filter_append]

/-- With a check a schema asks for something, even if it did not before. -/
theorem acceptsAll_withChecks :
    (schema.withChecks more).acceptsAll = (schema.acceptsAll && more.isEmpty) := by
  simp only [acceptsAll, kind?_withChecks, required_withChecks, properties_withChecks,
    items?_withChecks, constraints_withChecks]
  cases schema.constraints <;> simp

/-- Checks added one after another are checks added at once. -/
theorem withChecks_withChecks (first second : List Constraint) :
    (schema.withChecks first).withChecks second = schema.withChecks (first ++ second) := by
  rw [withChecks.eq_def (schema.withChecks first), required_withChecks, checks_withChecks,
    List.append_assoc]
  rfl

end Schema

namespace Validation

/-! ### What a copy reports -/

/-- The violations at the root by rules that look at the kind of a value and fail on it, in the
order of the rules. -/
def rootFindings (rules : List Constraint) (value : Document) : List Violation :=
  (rules.filter fun rule => rule.accepts value.kind).filterMap fun rule =>
    (rule.failure? value).map (constraintViolation [] rule)

/-- The parts of a value are looked at as before. -/
theorem partFindings_withChecks (limit : Nat) (path : Path) (depth : Nat) (schema : Schema)
    (more : List Constraint) (value : Document) :
    partFindings limit path depth (schema.withChecks more) value =
      partFindings limit path depth schema value := by
  cases value <;> simp [partFindings, missingFindings]

/-- New rules speak last, and only of values of the wanted kind. -/
theorem findings_withChecks (limit : Nat) (schema : Schema) (more : List Constraint)
    (value : Document) :
    findings limit [] 0 (schema.withChecks more) value =
      findings limit [] 0 schema value ++
        if schema.kind? = none ∨ schema.kind? = some value.kind then rootFindings more value
        else [] := by
  have rules : ruleFindings [] (schema.withChecks more) value =
      ruleFindings [] schema value ++ rootFindings more value := by
    rw [ruleFindings, Schema.rulesOn_withChecks, List.filterMap_append]
    rfl
  rw [findings_eq, findings_eq, if_neg (Nat.not_lt_zero limit), if_neg (Nat.not_lt_zero limit),
    Schema.kind?_withChecks, partFindings_withChecks, rules]
  cases asked : schema.kind? with
  | none => simp
  | some wanted =>
    by_cases same : wanted = value.kind
    · simp [same, Option.filter_some]
    · simp [same, Option.filter_some]

end Validation

/-! ### Adding checks in a session -/

namespace Session

/-- A schema with more checks, under a number of its own. -/
def addChecks (holding : Holding) (checks : List Check) : Session Holding := do
  let serial ← newSerial
  pure (holding.withChecks serial checks)

variable {w : Workspace}

/-- Calls that add checks to a schema take their numbers and change nothing else. -/
theorem exists_run_mapM_addChecks (holding : Holding) (calls : List (List Check))
    (w : Workspace) : ∃ copies, (calls.mapM (addChecks holding)).run w =
      (.ok copies, { w with serial := w.serial + calls.length }) := by
  induction calls generalizing w with
  | nil => exact ⟨[], rfl⟩
  | cons checks rest ih =>
    obtain ⟨copies, made⟩ := ih { w with serial := w.serial + 1 }
    refine ⟨holding.withChecks w.serial checks :: copies, ?_⟩
    have first : (addChecks holding checks).run w =
      (.ok (holding.withChecks w.serial checks), { w with serial := w.serial + 1 }) := rfl
    rw [List.mapM_cons, run_bind_of_ok first, run_bind_of_ok made, run_pure, List.length_cons,
      Nat.add_right_comm, Nat.add_assoc]

/-- A validation does not look at the number of the next schema. -/
theorem run_validate_serial (settings : Settings) (schema : Schema) (value : Document)
    (w : Workspace) (serial : Nat) :
    (validate settings schema value).run { w with serial } =
      (((validate settings schema value).run w).1,
        { ((validate settings schema value).run w).2 with serial }) := by
  have noted (found : List Violation) (w : Workspace) :
      found.foldl (fun w v => w.note (violationEvent v)) { w with serial } =
        { found.foldl (fun w v => w.note (violationEvent v)) w with serial } := by
    induction found generalizing w with
    | nil => rfl
    | cons v rest ih => exact ih (w.note (violationEvent v))
  rw [validate]
  show (Except.ok _, (List.foldl _ { w.note _ with serial } _).note _) = _
  rw [noted]
  rfl

end Session

namespace Validation

/-- Checks only append. Where the kind suits, the report of the copy is that of the schema and then
a violation at the root for each new rule that fails; otherwise it is that of the schema. Checks
added in two steps are checks added in one, and what a session says of the schema itself does not
depend on the copies that were made of it. -/
theorem withChecks_only_appends (limit : Nat) (schema : Schema) (more : List Constraint)
    (value : Document) :
    ((schema.kind? = none ∨ schema.kind? = some value.kind) →
        (validate ⟨limit, .collectAll⟩ (schema.withChecks more) value).violations =
          (validate ⟨limit, .collectAll⟩ schema value).violations ++ rootFindings more value)
      ∧ (∀ wanted, schema.kind? = some wanted → wanted ≠ value.kind →
        (validate ⟨limit, .collectAll⟩ (schema.withChecks more) value).violations =
          (validate ⟨limit, .collectAll⟩ schema value).violations)
      ∧ (∀ first second settings,
        validate settings ((schema.withChecks first).withChecks second) value =
          validate settings (schema.withChecks (first ++ second)) value)
      ∧ ∀ (identity source : SchemaIdentity) (calls : List (List Check)) settings w,
        let holding : Holding := ⟨schema, identity, source⟩
        (calls.mapM (Session.addChecks holding) >>= fun _ =>
            Session.validate settings holding.schema value).run w =
          let (answer, after) := (Session.validate settings holding.schema value).run w
          (answer, { after with serial := w.serial + calls.length }) := by
  have reported (asked : Schema) :
      (validate ⟨limit, .collectAll⟩ asked value).violations = findings limit [] 0 asked value :=
    violations_eq_reported _ _ _
  rw [reported, reported, findings_withChecks]
  refine ⟨fun suits => ?_, fun wanted asked other => ?_, fun first second settings => ?_,
    fun identity source calls settings w => ?_⟩
  · rw [if_pos suits]
  · have unsuited : ¬(schema.kind? = none ∨ schema.kind? = some value.kind) := by
      simp [asked, other]
    rw [if_neg unsuited, List.append_nil]
  · rw [Schema.withChecks_withChecks]
  · obtain ⟨copies, made⟩ :=
      Session.exists_run_mapM_addChecks ⟨schema, identity, source⟩ calls w
    intro holding
    rw [Session.run_bind_of_ok made, Session.run_validate_serial]

/-- Two rules that a text of one letter breaks, one that it keeps and one that is not for texts. -/
def letterRules : List Constraint :=
  [.check ⟨"even", Check.isEven, Check.defaultMessage, none⟩,
    .check ⟨"filled", Check.isNonempty, Check.defaultMessage, some .string⟩,
    .check ⟨"even", Check.isEven, Check.defaultMessage, some .number⟩,
    .minLength 2]

theorem withChecks_only_appends_letter :
    (Schema.anything.kind? = none ∨ Schema.anything.kind? = some (Document.string "a").kind)
      ∧ (validate ⟨0, .collectAll⟩ (Schema.anything.withChecks letterRules)
          (.string "a")).violations =
        (validate ⟨0, .collectAll⟩ .anything (.string "a")).violations ++
          rootFindings letterRules (.string "a")
      ∧ (rootFindings letterRules (.string "a")).map Violation.detail =
        ["even: custom check failed", "minLength: length 1 is less than 2"] := by
  have suits : Schema.anything.kind? = none ∨
      Schema.anything.kind? = some (Document.string "a").kind := .inl rfl
  exact ⟨suits, (withChecks_only_appends 0 .anything letterRules (.string "a")).1 suits, by decide⟩

end Validation
end Conformance
