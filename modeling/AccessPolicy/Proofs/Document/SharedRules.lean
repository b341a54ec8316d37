import AccessPolicy.Document.Basic
import AccessPolicy.Proofs.Document.Choice
import Mathlib.Tactic.MkIffOfInductiveProp

/-!
# Rules that both languages can state

What is accessed and who accesses it are told in two languages of rules, each with a compiler of its
own. Most kinds of rules belong to both languages. This module takes the rules that are built from
these alone, writes each of them in both languages, and shows that it does not matter which language
it is written in: both compilers make the same condition of it, or refuse it for the same fault, and
they stop at the same place. Only the message about a rule `any` that is switched off names the
language.

Main results:

* `SharedRule.alike_compile`, `SharedRule.alike_compileAll` — the compilers step by step;
* `compile_asPermission_asPrincipal` — what the compilers make of a rule.
-/

namespace AccessPolicy

/-- A rule that can be stated about what is accessed and about who accesses it. -/
inductive SharedRule where
  /-- Everything; must be `true`. -/
  | any (flag : Bool)
  | allOf (rules : List SharedRule)
  | anyOf (rules : List SharedRule)
  | not (rule : SharedRule)
  | header (spec : HeaderSpec)
  /-- The name of the method. -/
  | path (spec : TextSpec)

namespace SharedRule

mutual

/-- The rule about what is accessed. -/
def asPermission : SharedRule → PermissionRule
  | .any flag => .any flag
  | .allOf rules => .allOf (asPermissions rules)
  | .anyOf rules => .anyOf (asPermissions rules)
  | .not rule => .not rule.asPermission
  | .header spec => .header spec
  | .path spec => .path spec

def asPermissions : List SharedRule → List PermissionRule
  | [] => []
  | rule :: rest => rule.asPermission :: asPermissions rest

end

mutual

/-- The rule about who accesses. -/
def asPrincipal : SharedRule → PrincipalRule
  | .any flag => .any flag
  | .allOf rules => .allOf (asPrincipals rules)
  | .anyOf rules => .anyOf (asPrincipals rules)
  | .not rule => .not rule.asPrincipal
  | .header spec => .header spec
  | .path spec => .path spec

def asPrincipals : List SharedRule → List PrincipalRule
  | [] => []
  | rule :: rest => rule.asPrincipal :: asPrincipals rest

end

end SharedRule

/-! ## Results that are alike -/

/-- The error about a rule `any` that is switched off, in the language of the given name. -/
def anySwitchedOff (what : String) : Error :=
  .invalidConfig (what ++ " \x60any\x60 must be true when set")

/-- Whether two compilers, one for each language, have come to the same result. -/
@[mk_iff]
inductive Alike {α : Type} : Except Error α → Except Error α → Prop where
  | ok (a : α) : Alike (.ok a) (.ok a)
  | fault {e : Error} (h : e.OfSpec) : Alike (.error e) (.error e)
  | switchedOff :
    Alike (.error (anySwitchedOff "permission")) (.error (anySwitchedOff "principal"))

section Alike

variable {α β : Type}

/-- A specification is compiled by one function for both languages. -/
theorem alike_self {x : Except Error α} (h : FailsWith Error.OfSpec x) : Alike x x := by
  cases x with
  | ok a => exact .ok a
  | error e => exact .fault (h e rfl)

/-- Where the first steps are alike, and the second ones are for whatever comes of the first, the
computations are. -/
theorem Alike.bind {x y : Except Error α} {f g : α → Except Error β} (hxy : Alike x y)
    (hfg : ∀ a, Alike (f a) (g a)) : Alike (x >>= f) (y >>= g) := by
  cases hxy with
  | ok a => exact hfg a
  | fault h => exact .fault h
  | switchedOff => exact .switchedOff

theorem Alike.bind_pure {x y : Except Error α} (hxy : Alike x y) (f : α → β) :
    Alike (x >>= fun a => pure (f a)) (y >>= fun a => pure (f a)) :=
  hxy.bind fun a => .ok (f a)

theorem alike_compileAny (flag : Bool) :
    Alike (compileAny flag "permission") (compileAny flag "principal") := by
  cases flag with
  | true => exact .ok _
  | false => exact .switchedOff

end Alike

/-! ## The two compilers -/

namespace SharedRule

mutual

theorem alike_compile (rule : SharedRule) :
    Alike rule.asPermission.compile rule.asPrincipal.compile := by
  match rule with
  | .any flag =>
    rw [asPermission, asPrincipal, PermissionRule.compile, PrincipalRule.compile]
    exact alike_compileAny flag
  | .allOf rules | .anyOf rules =>
    rw [asPermission, asPrincipal, PermissionRule.compile, PrincipalRule.compile]
    exact (alike_compileAll rules).bind_pure _
  | .not inner =>
    rw [asPermission, asPrincipal, PermissionRule.compile, PrincipalRule.compile]
    exact (alike_compile inner).bind_pure _
  | .header spec | .path spec =>
    rw [asPermission, asPrincipal, PermissionRule.compile, PrincipalRule.compile]
    exact (alike_self spec.ofSpec_compile).bind_pure _

/-- The children of a compound are compiled from left to right in both languages, so that the first
fault is the same. -/
theorem alike_compileAll (rules : List SharedRule) :
    Alike (PermissionRule.compileAll (asPermissions rules))
      (PrincipalRule.compileAll (asPrincipals rules)) := by
  match rules with
  | [] =>
    rw [asPermissions, asPrincipals, PermissionRule.compileAll, PrincipalRule.compileAll]
    exact .ok []
  | rule :: rest =>
    rw [asPermissions, asPrincipals, PermissionRule.compileAll, PrincipalRule.compileAll]
    exact (alike_compile rule).bind fun _ => (alike_compileAll rest).bind_pure _

end

/-- The two languages agree on the rules that both of them can state. Either both compilers make the
same condition of a rule, or both refuse it with the same error, or both refuse it for a rule `any`
that is switched off, which each of them tells with the name of its language. -/
theorem compile_asPermission_asPrincipal (rule : SharedRule) :
    (∃ condition, rule.asPermission.compile = .ok condition ∧
      rule.asPrincipal.compile = .ok condition) ∨
    (∃ e, (∀ reason, e ≠ .invalidConfig reason) ∧ rule.asPermission.compile = .error e ∧
      rule.asPrincipal.compile = .error e) ∨
    rule.asPermission.compile =
        .error (.invalidConfig "permission \x60any\x60 must be true when set") ∧
      rule.asPrincipal.compile =
        .error (.invalidConfig "principal \x60any\x60 must be true when set") := by
  obtain ⟨condition, hpermission, hprincipal⟩ | ⟨e, he, hpermission, hprincipal⟩ |
    ⟨hpermission, hprincipal⟩ := (alike_iff _ _).mp rule.alike_compile
  · exact .inl ⟨condition, hpermission, hprincipal⟩
  · -- no specification is refused with an error about the configuration as such
    refine .inr (.inl ⟨e, ?_, hpermission, hprincipal⟩)
    rintro reason rfl
    exact he
  · exact .inr (.inr ⟨hpermission, hprincipal⟩)

/-- The first fault counts, wherever it stands; the pattern behind it is not looked at. -/
example :
    let rule : SharedRule :=
      .allOf [.path { exact := some "/a" }, .not (.any false), .path { pattern := some "(" }]
    rule.asPermission.compile = .error (anySwitchedOff "permission") ∧
      rule.asPrincipal.compile = .error (anySwitchedOff "principal") := by
  exact ⟨rfl, rfl⟩

end SharedRule

end AccessPolicy
