import AccessPolicy.Proofs.Document.Limits
import Mathlib.Data.List.Forall2

/-!
# The order in which policies are written

A document keeps its policies in a map, and its engine tries them in the order of their names. So it
makes no difference in which order the policies were written down.

Main results:

* `policies_compileAll` — each entry turns into one policy of its name;
* `isOf_compile` — what the engine of a document is made of;
* `compile_of_perm` — documents of the same policies in another order compile alike.
-/

namespace AccessPolicy

/-- One name stands before another: their code points are compared one by one. -/
def CodePointsBefore (a b : String) : Prop :=
  List.Lex (fun c d => c.toNat < d.toNat) a.toList b.toList

theorem codePointsBefore_iff_lt {a b : String} : CodePointsBefore a b ↔ a < b :=
  Iff.symm String.lt_iff

/-- Entries and the policies they have turned into, one by one. -/
abbrev PolicyRules.TurnInto (entries : List (String × PolicyRules)) (policies : List Policy) :
    Prop :=
  List.Forall₂ (fun entry policy => entry.2.compile entry.1 = .ok policy) entries policies

/-- What the engine of an action and some entries is made of, told without the order in which the
entries are written. -/
structure Engine.IsOf (action : Action) (entries : List (String × PolicyRules)) (engine : Engine) :
    Prop where
  action : engine.action = action
  /-- Every entry has turned into just one policy. -/
  policies : ∃ sorted, sorted.Perm entries ∧ PolicyRules.TurnInto sorted engine.policies
  ascending : engine.policies.Pairwise fun p q => CodePointsBefore p.name q.name

/-! ## From entries to policies -/

theorem PolicyRules.policies_compileAll {entries : List (String × PolicyRules)}
    {policies : List Policy} (h : compileAll entries = .ok policies) :
    TurnInto entries policies := by
  induction entries generalizing policies with
  | nil =>
    obtain rfl := Except.ok.inj h
    exact .nil
  | cons entry rest ih =>
    obtain ⟨policy, hpolicy, h⟩ := bind_eq_ok.mp h
    obtain ⟨policies, hpolicies, h⟩ := bind_eq_ok.mp h
    obtain rfl := Except.ok.inj h
    exact .cons hpolicy (ih hpolicies)

theorem Document.policies_compile {document : Document} {engine : Engine}
    (h : document.compile = .ok engine) :
    engine.action = document.action ∧
      PolicyRules.TurnInto document.policies.entries engine.policies ∧
      engine.policies.map Policy.name = document.policies.entries.map Prod.fst := by
  obtain ⟨policies, hpolicies, h⟩ := bind_eq_ok.mp h
  obtain ⟨haction, rfl⟩ := Engine.ofPolicies_eq_ok h
  exact ⟨haction, PolicyRules.policies_compileAll hpolicies,
    (PolicyRules.withinLimits_compileAll hpolicies).1⟩

/-- The engine of a document, by the entries that its map is made from. -/
theorem Document.isOf_compile {action : Action} {entries : List (String × PolicyRules)}
    (hnames : (entries.map Prod.fst).Nodup) {engine : Engine}
    (h : Document.compile ⟨action, .ofList entries⟩ = .ok engine) : engine.IsOf action entries := by
  obtain ⟨haction, hpolicies, hengine⟩ := policies_compile h
  refine ⟨haction, ⟨_, NameMap.perm_ofList_iff.mpr hnames, hpolicies⟩, ?_⟩
  -- the policies stand in the order of the map
  have hascending : (engine.policies.map Policy.name).Pairwise (· < ·) := by
    rw [hengine, List.pairwise_map]
    exact (NameMap.ofList entries).ascending
  rw [List.pairwise_map] at hascending
  exact hascending.imp codePointsBefore_iff_lt.mpr

/-! ## Documents in another order -/

/-- Whether the same policies are written in one order or another, compiling the document leads to
the same error, or to engines that are made of the same parts and do the same with every request. -/
theorem Document.compile_of_perm (action : Action) {entries entries' : List (String × PolicyRules)}
    (hnames : (entries.map Prod.fst).Nodup) (h : entries.Perm entries') :
    (∃ e, Document.compile ⟨action, .ofList entries⟩ = .error e ∧
      Document.compile ⟨action, .ofList entries'⟩ = .error e) ∨
    ∃ engine engine', Document.compile ⟨action, .ofList entries⟩ = .ok engine ∧
      Document.compile ⟨action, .ofList entries'⟩ = .ok engine' ∧
      engine.IsOf action entries ∧ engine'.IsOf action entries' ∧
      engine.policies = engine'.policies ∧
      ∀ request, engine.evaluate request = engine'.evaluate request ∧
        engine.explain request = engine'.explain request := by
  have hnames' : (entries'.map Prod.fst).Nodup := (h.map Prod.fst).nodup_iff.mp hnames
  have hsame : NameMap.ofList entries = NameMap.ofList entries' :=
    NameMap.ofList_eq_of_perm hnames h
  rcases hcompile : Document.compile ⟨action, .ofList entries⟩ with e | engine
  · exact .inl ⟨e, rfl, hsame ▸ hcompile⟩
  · have hcompile' : Document.compile ⟨action, .ofList entries'⟩ = .ok engine := hsame ▸ hcompile
    refine .inr ⟨engine, engine, rfl, hcompile', ?_, ?_, rfl, fun _ => ⟨rfl, rfl⟩⟩
    · exact isOf_compile hnames hcompile
    · exact isOf_compile hnames' hcompile'

/-- The rules of a policy about everything and everyone. -/
def PolicyRules.everyone : PolicyRules := ⟨[.any true], [.any true]⟩

/-- The policy that was written last has the first name. -/
theorem Document.compile_of_perm_swap :
    let entries : List (String × PolicyRules) := [("zeta", .everyone), ("alpha", .everyone)]
    let swapped : List (String × PolicyRules) := [("alpha", .everyone), ("zeta", .everyone)]
    ∃ engine engine', Document.compile ⟨.allow, .ofList entries⟩ = .ok engine ∧
      Document.compile ⟨.allow, .ofList swapped⟩ = .ok engine' ∧
      engine.policies.map Policy.name = ["alpha", "zeta"] ∧
      engine.policies = engine'.policies := by
  intro entries swapped
  have hnames : (entries.map Prod.fst).Nodup := by decide
  have hswap : entries.Perm swapped := .swap ..
  rcases Document.compile_of_perm .allow hnames hswap with ⟨e, herror, -⟩ | h
  · -- the map turns into policies that are well-formed, so there is no error
    let policies : List Policy := [⟨"alpha", .always, .always⟩, ⟨"zeta", .always, .always⟩]
    have hok : Engine.WellFormed policies := by decide +kernel
    obtain ⟨engine, hengine⟩ := (Engine.exists_ofPolicies_iff .allow).mpr hok
    have hpolicies :
        PolicyRules.compileAll (NameMap.ofList entries).entries = .ok policies := by rfl
    rw [Document.compile, bind_eq_error, hpolicies] at herror
    simp [hengine] at herror
  · obtain ⟨engine, engine', hengine, hengine', -, -, hsame, -⟩ := h
    refine ⟨engine, engine', hengine, hengine', ?_, hsame⟩
    rw [(Document.policies_compile hengine).2.2]
    decide +kernel

end AccessPolicy
