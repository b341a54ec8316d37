import AccessPolicy.Document.Load
import AccessPolicy.Proofs.Document.Order
import AccessPolicy.Proofs.Json.Reader
import AccessPolicy.Proofs.Related
import Mathlib.Data.List.Perm.Basic

/-!
# Which written policies an engine keeps

A text may write several policies under one name. The duplicate is gone before the policies are
checked for repeated names: the map that the policies are read into keeps the last of them, so the
text loads and the others are lost. This module says which of the entries that a text writes as
policies end up in the engine.

Main results:

* `readFields_member` — what a record has read from the member of a name;
* `policies_ofJson` — the policies of a document are the map of the entries written;
* `load_keeps_iff` — an engine has a policy for each entry if and only if no name is repeated.
-/

namespace AccessPolicy

open Json

/-! ## Members of a record -/

/-- The value behind a name, where it stands first. -/
def Json.memberOf (name : String) : List (Json × Json) → Option Json
  | [] => none
  | (.string (some other), value) :: rest =>
    if other = name then some value else memberOf name rest
  | _ :: rest => memberOf name rest

/-- A member of a record, which is written as an object or as an array of its fields in order. -/
def Json.member? (index : Nat) (name : String) : Json → Option Json
  | .object entries => memberOf name entries
  | .array items => items[index]?
  | _ => none

/-- The entries that the value of a document holds as its policies. -/
def Json.policyEntries (json : Json) : List (Json × Json) :=
  match json.member? 1 "policies" with
  | some (.object entries) => entries
  | _ => []

section Records

variable {σ τ : Type} {shape : Shape σ} {field : Json.Field σ} {part : σ → τ}

/-- What of a record a field alone decides: the readers of all other fields leave it as it is. -/
def Json.Shape.Decides (shape : Shape σ) (field : Json.Field σ) (part : σ → τ) : Prop :=
  ∀ other ∈ shape.fields, other.name ≠ field.name → ∀ json s s',
    other.read json s = .ok s' → part s' = part s

/-- A part of a record that was read from an object comes from the member of its field, unless that
was read before or is missing. -/
theorem Json.Shape.readFields_member
    (hfind : (shape.fields.find? fun other => other.name = field.name) = some field)
    (hdecides : shape.Decides field part) {entries : List (Json × Json)} {seen : List String}
    {s s' : σ} (h : shape.readFields seen s entries = .ok s') :
    (memberOf field.name entries = none ∨ field.name ∈ seen) ∧ part s' = part s ∨
      ∃ value s₁ s₂, memberOf field.name entries = some value ∧ field.name ∉ seen ∧
        field.read value s₁ = .ok s₂ ∧ part s' = part s₂ := by
  induction entries generalizing seen s with
  | nil =>
    simp only [readFields] at h
    split at h
    · simp at h
    · obtain rfl := Except.ok.inj h
      exact .inl ⟨.inl rfl, rfl⟩
  | cons entry rest ih =>
    obtain ⟨key, value⟩ := entry
    by_cases hkey : ∀ name, key ≠ .string (some name)
    · rw [shape.readFields_no_name hkey] at h
      simp at h
    obtain ⟨name, rfl⟩ : ∃ name, key = .string (some name) := by simpa using hkey
    simp only [readFields] at h
    split at h
    · next other hother =>
      have hname : other.name = name := by simpa using List.find?_some hother
      split at h
      · simp at h
      next hseen =>
      rw [List.contains_iff_mem] at hseen
      obtain ⟨s₁, hread, hrest⟩ := bind_eq_ok.mp h
      by_cases hsame : name = field.name
      · -- the member itself: behind it the name counts as seen
        subst hsame
        obtain rfl : field = other := Option.some.inj (hfind.symm.trans hother)
        refine .inr ⟨value, s, s₁, by simp [memberOf], hseen, hread, ?_⟩
        rcases ih hrest with ⟨-, hpart⟩ | ⟨_, _, _, -, hunseen, -⟩
        · exact hpart
        · exact absurd List.mem_cons_self hunseen
      · -- another field, which has nothing to do with the part
        have hkeep : part s₁ = part s :=
          hdecides other (List.mem_of_find?_eq_some hother) (hname ▸ hsame) _ _ _ hread
        simpa [memberOf, hsame, Ne.symm hsame, hkeep] using ih hrest
    · next hnone =>
      have hsame : name ≠ field.name := by
        rintro rfl
        simp [hfind] at hnone
      split at h
      · simp at h
      · have hrest : shape.readFields seen s rest = .ok s' := by
          cases value <;> first | exact h | simp at h
        simpa [memberOf, hsame] using ih hrest

end Records

/-! ## Documents -/

/-- An entry of a text is read as an entry of a document. -/
def EntryReads (written : Json × Json) (entry : String × PolicyRules) : Prop :=
  written.1 = .string (some entry.1) ∧ ∃ levels, PolicyRules.ofJson levels written.2 = .ok entry.2

theorem readEntries_insert {levels : Nat} {written : List (Json × Json)}
    {map map' : NameMap PolicyRules}
    (h : readEntries (fun map name json => do
      return map.insert name (← PolicyRules.ofJson levels json)) map written = .ok map') :
    ∃ entries, List.Forall₂ EntryReads written entries ∧
      map' = entries.foldl (fun map entry => map.insert entry.1 entry.2) map := by
  induction written generalizing map with
  | nil =>
    obtain rfl := Except.ok.inj h
    exact ⟨[], .nil, rfl⟩
  | cons head rest ih =>
    obtain ⟨name, _, _, hname, -⟩ := readEntries_eq_ok h head List.mem_cons_self
    obtain ⟨key, value⟩ := head
    obtain rfl : key = .string (some name) := hname
    rw [readEntries] at h
    obtain ⟨map₁, hinsert, h⟩ := bind_eq_ok.mp h
    obtain ⟨rules, hrules, hmap₁⟩ := bind_eq_ok.mp hinsert
    obtain rfl := Except.ok.inj hmap₁
    obtain ⟨entries, hentries, rfl⟩ := ih h
    exact ⟨(name, rules) :: entries, .cons ⟨rfl, levels, hrules⟩ hentries, rfl⟩

/-- What is read in the place of the policies is an object, and a map of its entries. -/
theorem PolicyRules.mapOfJson_eq_ok {levels : Nat} {json : Json} {map : NameMap PolicyRules}
    (h : PolicyRules.mapOfJson levels json = .ok map) :
    ∃ written entries, json = .object written ∧ List.Forall₂ EntryReads written entries ∧
      map = .ofList entries := by
  obtain ⟨written, rfl, -⟩ := readMap_eq_ok h
  rw [mapOfJson, readMap] at h
  split at h
  · simp at h
  · obtain ⟨entries, hentries, hmap⟩ := readEntries_insert h
    exact ⟨written, entries, rfl, hentries, hmap⟩

/-- The field of a document that holds the policies. -/
def Document.policiesField (levels : Nat) : Json.Field Document :=
  (Document.shape levels).fields.get ⟨1, by simp [shape]⟩

theorem Document.decides_policiesField (levels : Nat) :
    (Document.shape levels).Decides (policiesField levels) Document.policies := by
  intro other hother hname json s s' h
  simp only [shape, List.mem_cons, List.not_mem_nil, or_false] at hother
  rcases hother with rfl | rfl
  · obtain ⟨_, -, h⟩ := bind_eq_ok.mp h
    obtain rfl := Except.ok.inj h
    rfl
  · exact absurd rfl hname

/-- A record without names holds the policies behind the action, or leaves them as they are at
first. -/
theorem Document.policies_readItems {levels : Nat} {items : List Json} {document : Document}
    (h : (shape levels).readItems 0 { action := .allow } (shape levels).fields items =
      .ok document) :
    ∃ entries, List.Forall₂ EntryReads (Json.array items).policyEntries entries ∧
      document.policies = .ofList entries := by
  match items, h with
  | [], h => simp [Shape.readItems, shape] at h
  | [action], h =>
    obtain ⟨s, haction, h⟩ := bind_eq_ok.mp h
    obtain ⟨_, -, haction⟩ := bind_eq_ok.mp haction
    obtain rfl := Except.ok.inj haction
    obtain rfl := Except.ok.inj h
    exact ⟨[], .nil, rfl⟩
  | [action, policies], h =>
    obtain ⟨s, -, h⟩ := bind_eq_ok.mp h
    obtain ⟨s', hpolicies, h⟩ := bind_eq_ok.mp h
    obtain ⟨map, hmap, hpolicies⟩ := bind_eq_ok.mp hpolicies
    obtain rfl := Except.ok.inj hpolicies
    obtain rfl := Except.ok.inj h
    obtain ⟨written, entries, rfl, hentries, rfl⟩ := PolicyRules.mapOfJson_eq_ok hmap
    exact ⟨entries, hentries, rfl⟩
  | action :: policies :: extra :: rest, h =>
    obtain ⟨s, -, h⟩ := bind_eq_ok.mp h
    obtain ⟨s', -, h⟩ := bind_eq_ok.mp h
    simp [Shape.readItems] at h

theorem Document.policies_readFields {levels : Nat} {fields : List (Json × Json)}
    {document : Document}
    (h : (shape levels).readFields [] { action := .allow } fields = .ok document) :
    ∃ entries, List.Forall₂ EntryReads (Json.object fields).policyEntries entries ∧
      document.policies = .ofList entries := by
  have hfind : ((shape levels).fields.find? fun other =>
      other.name = (policiesField levels).name) = some (policiesField levels) := rfl
  have hentries : (Json.object fields).policyEntries =
      match memberOf (policiesField levels).name fields with
      | some (.object entries) => entries
      | _ => [] := rfl
  rcases Shape.readFields_member hfind (decides_policiesField levels) h with
    ⟨hnone | hseen, hpolicies⟩ | ⟨value, _, _, hvalue, -, hfield, hpolicies⟩
  · -- no policies are written
    rw [hnone] at hentries
    exact ⟨[], hentries ▸ .nil, hpolicies⟩
  · simp at hseen
  · obtain ⟨map, hmap, hs⟩ := bind_eq_ok.mp hfield
    obtain rfl := Except.ok.inj hs
    obtain ⟨written, entries, rfl, hreads, rfl⟩ := PolicyRules.mapOfJson_eq_ok hmap
    rw [hvalue] at hentries
    exact ⟨entries, hentries ▸ hreads, hpolicies⟩

/-- The policies of a document are the map of the entries that its value holds as policies. -/
theorem Document.policies_ofJson {levels : Nat} {json : Json} {document : Document}
    (h : Document.ofJson levels json = .ok document) :
    ∃ entries, List.Forall₂ EntryReads json.policyEntries entries ∧
      document.policies = .ofList entries := by
  obtain ⟨items, rfl, hread⟩ | ⟨fields, rfl, hread⟩ := Shape.read_eq_ok h
  · exact Document.policies_readItems hread
  · exact Document.policies_readFields hread

/-! ## Engines -/

/-- A policy is built from an entry of a text: it has the name and the rules that stand there. -/
def Policy.BuiltFrom (policy : Policy) (written : Json × Json) : Prop :=
  written.1 = .string (some policy.name) ∧ ∃ levels rules,
    PolicyRules.ofJson levels written.2 = .ok rules ∧ rules.compile policy.name = .ok policy

/-- An engine has just one policy for each entry of a text. -/
def Engine.Keeps (engine : Engine) (written : List (Json × Json)) : Prop :=
  ∃ policies, policies.Perm engine.policies ∧
    List.Forall₂ (fun entry (policy : Policy) => policy.BuiltFrom entry) written policies

/-- An entry that is read and compiled has been built into the policy. -/
theorem Policy.builtFrom_of_reads {written : Json × Json} {entry : String × PolicyRules}
    {policy : Policy} (hreads : EntryReads written entry)
    (hcompile : entry.2.compile entry.1 = .ok policy) : policy.BuiltFrom written := by
  obtain ⟨hname, levels, hrules⟩ := hreads
  have hsame : policy.name = entry.1 := (PolicyRules.withinLimits_compile hcompile).1
  exact ⟨hsame ▸ hname, levels, entry.2, hrules, hsame ▸ hcompile⟩

theorem forall₂_builtFrom {written : List (Json × Json)} {entries : List (String × PolicyRules)}
    {policies : List Policy} (hreads : List.Forall₂ EntryReads written entries)
    (hcompile : PolicyRules.TurnInto entries policies) :
    List.Forall₂ (fun entry (policy : Policy) => policy.BuiltFrom entry) written policies := by
  induction hreads generalizing policies with
  | nil =>
    cases hcompile
    exact .nil
  | cons hhead _ ih =>
    cases hcompile with
    | cons hpolicy hrest => exact .cons (Policy.builtFrom_of_reads hhead hpolicy) (ih hrest)

/-- The keys of the entries of a text are the names of what they stand for. -/
theorem keys_eq_names {β : Type} {R : Json × Json → β → Prop} (name : β → String)
    (hname : ∀ entry b, R entry b → entry.1 = .string (some (name b)))
    {written : List (Json × Json)} {bs : List β} (h : List.Forall₂ R written bs) :
    written.map Prod.fst = (bs.map name).map fun name => .string (some name) := by
  induction h with
  | nil => rfl
  | cons hhead _ ih => rw [List.map_cons, List.map_cons, List.map_cons, hname _ _ hhead, ih]

theorem keys_of_reads {written : List (Json × Json)} {entries : List (String × PolicyRules)}
    (h : List.Forall₂ EntryReads written entries) :
    written.map Prod.fst = (entries.map Prod.fst).map fun name => .string (some name) :=
  keys_eq_names Prod.fst (fun _ _ hreads => hreads.1) h

theorem nodup_keys_iff {names : List String} :
    (names.map fun name => Json.string (some name)).Nodup ↔ names.Nodup :=
  List.nodup_map_iff fun a b h => by simpa using h

/-- What an engine that is loaded has to do with the entries written: they are read one by one, and
the entries of their map turn into the policies. -/
theorem Engine.policies_load {text : String} {engine : Engine}
    (h : Engine.load .json text = .ok engine) :
    ∃ entries, List.Forall₂ EntryReads (ofText text).1.policyEntries entries ∧
      PolicyRules.TurnInto (NameMap.ofList entries).entries engine.policies ∧
      engine.policies.map Policy.name = (NameMap.ofList entries).entries.map Prod.fst := by
  obtain ⟨document, hdocument, hcompile⟩ := bind_eq_ok.mp h
  replace hdocument : Document.ofJsonText text = .ok document := by
    cases hread : Document.ofJsonText text <;>
      simp_all [Document.ofText, Except.mapError]
  replace hcompile : document.compile = .ok engine := by
    cases hresult : document.compile <;> simp_all [Except.mapError]
  obtain ⟨value, hvalue, hcomplete⟩ := bind_eq_ok.mp hdocument
  obtain rfl : value = document := by
    split at hcomplete
    · exact Except.ok.inj hcomplete
    · simp at hcomplete
  obtain ⟨entries, hentries, hpolicies⟩ := Document.policies_ofJson hvalue
  obtain ⟨-, hturn, hnames⟩ := Document.policies_compile hcompile
  rw [hpolicies] at hturn hnames
  exact ⟨entries, hentries, hturn, hnames⟩

/-- An engine that is loaded from a text has just one policy for each entry written as a policy if
and only if no two of these entries have one name. In any case every name written has a policy, but
of several entries of one name it is the last one's. -/
theorem Engine.load_keeps_iff {text : String} {engine : Engine}
    (h : Engine.load .json text = .ok engine) :
    let written := (ofText text).1.policyEntries
    (engine.Keeps written ↔ (written.map Prod.fst).Nodup) ∧
      (∀ entry ∈ written, ∃ policy ∈ engine.policies, entry.1 = .string (some policy.name)) ∧
      ∀ policy ∈ engine.policies, ∃ before entry behind, written = before ++ entry :: behind ∧
        policy.BuiltFrom entry ∧ ∀ other ∈ behind, other.1 ≠ entry.1 := by
  intro written
  obtain ⟨entries, hreads, hturn, hnames⟩ := policies_load h
  have hkeys : written.map Prod.fst = _ := keys_of_reads hreads
  refine ⟨⟨?different, ?kept⟩, ?named, ?last⟩
  case different =>
    -- the policies have different names, and these are the keys
    rintro ⟨policies, hperm, hbuilt⟩
    rw [keys_eq_names Policy.name (fun _ _ hbuilt => hbuilt.1) hbuilt, nodup_keys_iff,
      (hperm.map Policy.name).nodup_iff, hnames]
    exact NameMap.nodup_names _
  case kept =>
    -- the map holds just the entries, in another order
    intro hdifferent
    rw [hkeys, nodup_keys_iff, ← NameMap.perm_ofList_iff] at hdifferent
    obtain ⟨policies, hpolicies, hperm⟩ := List.perm_comp_forall₂ hdifferent.symm hturn
    exact ⟨policies, hperm, forall₂_builtFrom hreads hpolicies⟩
  case named =>
    intro entry hentry
    have hkey : entry.1 ∈ written.map Prod.fst := List.mem_map_of_mem hentry
    rw [hkeys] at hkey
    obtain ⟨name, hname, hkey⟩ := List.mem_map.mp hkey
    rw [← NameMap.mem_names_ofList_iff, ← hnames] at hname
    obtain ⟨policy, hpolicy, rfl⟩ := List.mem_map.mp hname
    exact ⟨policy, hpolicy, hkey.symm⟩
  case last =>
    intro policy hpolicy
    obtain ⟨entry, hentry, hcompile⟩ := exists_left_of_mem hturn hpolicy
    obtain ⟨before, behind, rfl, hlast⟩ := NameMap.mem_ofList_iff.mp hentry
    obtain ⟨before', written', behind', hsplit, hread, hbehind⟩ :=
      exists_append_cons_of_forall₂ hreads
    refine ⟨before', written', behind', hsplit, Policy.builtFrom_of_reads hread hcompile, ?_⟩
    intro other hother heq
    have hkey : other.1 ∈ behind'.map Prod.fst := List.mem_map_of_mem hother
    rw [keys_of_reads hbehind, heq, hread.1] at hkey
    obtain ⟨name, hname, hsame⟩ := List.mem_map.mp hkey
    obtain ⟨entry', hentry', rfl⟩ := List.mem_map.mp hname
    exact hlast entry' hentry' (by simpa using hsame)

/-- A document that denies everything under a name, and under the same name nothing. -/
def repeatedName : String :=
  "\x7b\"action\": \"DENY\", \"policies\": \x7b\"p\": \x7b" ++
    "\"permissions\": [\x7b\"any\": true\x7d], " ++
    "\"principals\": [\x7b\"any\": true\x7d]\x7d, \"p\": \x7b\x7d\x7d\x7d"

/-- The entries that the document writes as policies. -/
def repeatedNameEntries : List (Json × Json) :=
  [(.string (some "p"), .object
      [(.string (some "permissions"), .array [.object [(.string (some "any"), .bool true)]]),
        (.string (some "principals"), .array [.object [(.string (some "any"), .bool true)]])]),
    (.string (some "p"), .object [])]

theorem ofText_repeatedName : ofText repeatedName =
    (.object [(.string (some "action"), .string (some "DENY")),
      (.string (some "policies"), .object repeatedNameEntries)], true) := by cbv

/-- Only the second policy is left, which matches nothing. -/
theorem load_repeatedName : ∃ engine, Engine.load .json repeatedName = .ok engine ∧
    engine.action = .deny ∧ engine.policies = [.ofRules "p" [] []] := by
  have hread : Document.ofText .json repeatedName = .ok ⟨.deny, .ofList [("p", ⟨[], []⟩)]⟩ := by
    rw [Document.ofText, Document.ofJsonText, readAll, ofText_repeatedName]
    rfl
  have hwell : Engine.WellFormed [.ofRules "p" [] []] := by decide +kernel
  obtain ⟨engine, hengine⟩ := (Engine.exists_ofPolicies_iff .deny).mpr hwell
  obtain ⟨haction, hpolicies⟩ := Engine.ofPolicies_eq_ok hengine
  have hcompile : Document.compile ⟨.deny, .ofList [("p", ⟨[], []⟩)]⟩ = .ok engine := hengine
  refine ⟨engine, ?_, haction, hpolicies⟩
  rw [Engine.load, hread]
  show (Document.compile _).mapError LoadError.refused = .ok engine
  rw [hcompile]
  rfl

/-- With a name repeated, there is an entry without a policy. -/
theorem Engine.load_keeps_iff_repeated :
    ∃ engine, Engine.load .json repeatedName = .ok engine ∧
      ¬ engine.Keeps (ofText repeatedName).1.policyEntries := by
  obtain ⟨engine, hload, -, -⟩ := load_repeatedName
  refine ⟨engine, hload, fun hkeeps => ?_⟩
  have hnames := (Engine.load_keeps_iff hload).1.mp hkeeps
  rw [ofText_repeatedName] at hnames
  exact (List.nodup_cons.mp hnames).1 List.mem_cons_self

/-- The text loads although a name is repeated. The policy that denies everything is lost, and what
it would deny is allowed. -/
theorem Engine.repeated_name_loses :
    (ofText repeatedName).1.policyEntries = repeatedNameEntries ∧
      ∃ engine, Engine.load .json repeatedName = .ok engine ∧ engine.policies.length = 1 ∧
        ¬ engine.Keeps repeatedNameEntries ∧
        ∀ request, engine.evaluate request = ⟨.allow, none⟩ := by
  obtain ⟨engine, hload, haction, hpolicies⟩ := load_repeatedName
  refine ⟨by rw [ofText_repeatedName]; rfl, engine, hload, by rw [hpolicies]; rfl, ?_, ?_⟩
  · rintro ⟨policies, hperm, hbuilt⟩
    -- there are two entries, but one policy
    have hlength := hbuilt.length_eq.trans hperm.length_eq
    rw [hpolicies] at hlength
    simp [repeatedNameEntries] at hlength
  · intro request
    rw [Engine.evaluate, hpolicies, Engine.decide, haction]
    rfl

end AccessPolicy
