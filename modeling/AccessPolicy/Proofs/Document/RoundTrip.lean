import AccessPolicy.Document.Load
import AccessPolicy.Proofs.Document.Written

/-!
# Reading inverts writing

A document has many texts: members stand in any order or without their names, some may be left out,
strings are escaped or not, space is put anywhere between tokens. Every one of them is read as the
document. The limit on the nesting of texts could stand in the way, but the limit on the depth of
conditions is reached long before.

Main results:

* `respectsDepth_of_compile` — documents that compile respect the limit on depth;
* `ofText_inverts` — texts of a document are read as the document.
-/

namespace AccessPolicy

open Json

namespace Document

theorem ofText_of_spelledBy {document : Document} {text : String} (h : document.SpelledBy text)
    (hdepth : document.RespectsDepth) : Document.ofText .json text = .ok document := by
  obtain ⟨json, hjson, htext⟩ := h
  have hread := Document.ofJson_of_written hdepth hjson
  simp only [Document.ofText, ofJsonText, readAll, Json.ofText_of_spelledBy htext, hread]
  rfl

/-- Outlines within the limits of a list are each within the limit on depth. -/
theorem height_le_of_listWithinLimits {os : List Outline} (h : ListWithinLimits os) :
    ∀ o ∈ os, o.height ≤ maxDepth := by
  match os with
  | [] => simp
  | [o] => simpa using h.1
  | _ :: _ :: _ => exact fun o ho => Nat.le_of_lt (h.2 o ho).1

theorem respectsDepth_of_compile {document : Document} {engine : Engine}
    (h : document.compile = .ok engine) : document.RespectsDepth := by
  obtain ⟨policies, hpolicies, hengine⟩ := bind_eq_ok.mp h
  have hwell := (Engine.exists_ofPolicies_iff document.action).mp ⟨engine, hengine⟩
  obtain ⟨-, hlimits⟩ := PolicyRules.withinLimits_compileAll hpolicies
  intro entry hentry
  have hrules := hlimits.mp hwell.limits entry hentry
  exact ⟨height_le_of_listWithinLimits hrules.permissions,
    height_le_of_listWithinLimits hrules.principals⟩

/-- Reading inverts writing: every text that spells a document which compiles, in whatever form, is
read as just this document. The limit on the nesting of texts never stands in the way: the same
holds of every document whose rules respect the limit on depth, whether it compiles or not. -/
theorem ofText_inverts {document : Document} {text : String} (h : document.SpelledBy text) :
    ((∃ engine, document.compile = .ok engine) → Document.ofText .json text = .ok document) ∧
      (document.RespectsDepth → Document.ofText .json text = .ok document) := by
  constructor
  · rintro ⟨engine, hcompile⟩
    exact ofText_of_spelledBy h (respectsDepth_of_compile hcompile)
  · intro hdepth
    exact ofText_of_spelledBy h hdepth

/-! ## A text in mixed forms -/

/-- Denies everybody what lies outside of a prefix. -/
def guarded : Document :=
  ⟨.deny, .ofList [("ab", ⟨[.not (.path { startsWith := some "/x" })], [.any true]⟩)]⟩

/-- The document with its last member first, a policy and a test as arrays, and escapes. -/
def guardedText : String :=
  "\x7b\"policies\": \x7b\"a\\u0062\": " ++
    "[[\x7b\"not_rule\": \x7b\"url_path\": [null, \"\\/x\"]\x7d\x7d], " ++
    "[\x7b\"any\": true\x7d]]\x7d, \"action\": \"deny\"\x7d"

/-- The value of the test. -/
def guardedPath : Json :=
  .array [.null, .string (some "/x")]

/-- The value of the policy. -/
def guardedRules : Json :=
  .array [.array [.object [entry "not_rule" (.object [entry "url_path" guardedPath])]],
    .array [.object [entry "any" (.bool true)]]]

/-- The value of the document. -/
def guardedJson : Json :=
  .object [entry "policies" (.object [entry "ab" guardedRules]),
    entry "action" (.string (some "deny"))]

theorem guarded_writtenAs : guarded.WrittenAs guardedJson := by
  have hpath : TextSpec.WrittenAs { startsWith := some "/x" } guardedPath :=
    @RecordOf.array _ [_, _] _ _ rfl (.cons rfl (.cons rfl .nil))
      (by simp [FieldForm.optional, FieldForm.default])
  have hrules : PolicyRules.WrittenAs ⟨[.not (.path { startsWith := some "/x" })], [.any true]⟩
      guardedRules :=
    @RecordOf.array _ [_, _] _ _ rfl
      (.cons ⟨_, _, rfl, ⟨_, rfl, ⟨_, rfl, hpath⟩⟩, rfl⟩
        (.cons ⟨_, _, rfl, ⟨_, rfl, rfl⟩, rfl⟩ .nil)) (by simp)
  refine @RecordOf.object _ [("policies", _), ("action", _)] (by decide) ?_ ?_
  · rw [List.forall_mem_cons, List.forall_mem_singleton]
    refine ⟨⟨_, .tail _ (.head _), rfl, ?_⟩, ⟨_, .head _, rfl, ?_⟩⟩
    · exact ⟨_, _, .refl _, .cons ⟨rfl, hrules⟩ .nil, rfl⟩
    · exact ⟨"deny", by decide, .inl rfl⟩
  · simp [forms, FieldForm.always, FieldForm.default]

theorem guardedJson_spells : Spells guardedJson guardedText.toList := by
  have hplain : ∀ s ∈ ["policies", "not_rule", "url_path", "any", "action", "deny"],
      s.toList.all isPlain := by decide
  have hname := fun s hs => stringSpelled_self (hplain s hs)
  have hab : StringSpelled "ab" ('"' :: "a\\u0062".toList ++ ['"']) :=
    @StringSpelled.mk ['a', 'b'] _
      (.cons (.plain (by decide) (by decide) (by decide)) (.cons (.unit (by decide)) .nil))
  have hx : StringSpelled "/x" ('"' :: "\\/x".toList ++ ['"']) :=
    @StringSpelled.mk ['/', 'x'] _
      (.cons (.short (by decide)) (.cons (.plain (by decide) (by decide) (by decide)) .nil))
  -- from the inside out
  have hpath := Spells.array (.more .null (around_self _) (.one (.string hx) (around_space _)))
  have hnot := Spells.object
    (.one (.mk (hname "url_path" (by simp)) (around_self _) hpath (around_space _)))
  have hrule := Spells.object
    (.one (.mk (hname "not_rule" (by simp)) (around_self _) hnot (around_space _)))
  have hany := Spells.object
    (.one (.mk (hname "any" (by simp)) (around_self _) .true (around_space _)))
  have hrules := Spells.array (.more (.array (.one hrule (around_self _))) (around_self _)
    (.one (.array (.one hany (around_self _))) (around_space _)))
  have hpolicies := Spells.object (.one (.mk hab (around_self _) hrules (around_space _)))
  exact Spells.object
    (.more (.mk (hname "policies" (by simp)) (around_self _) hpolicies (around_space _))
      (.one (.mk (hname "action" (by simp)) (around_space _)
        (.string (hname "deny" (by simp))) (around_space _))))

/-- The text in mixed forms is read as the document. -/
theorem ofText_inverts_guarded :
    guarded.SpelledBy guardedText ∧ (∃ engine, guarded.compile = .ok engine) ∧
      guarded.RespectsDepth ∧ Document.ofText .json guardedText = .ok guarded := by
  have hspelled : guarded.SpelledBy guardedText :=
    ⟨guardedJson, guarded_writtenAs, _, guardedJson_spells, around_self _⟩
  obtain ⟨engine, hcompile⟩ : ∃ engine, guarded.compile = .ok engine :=
    ⟨_, bind_eq_ok.mpr ⟨_, rfl, Engine.ofPolicies_of_check .deny (by cbv)⟩⟩
  exact ⟨hspelled, ⟨engine, hcompile⟩, respectsDepth_of_compile hcompile,
    (ofText_inverts hspelled).1 ⟨engine, hcompile⟩⟩

end Document

end AccessPolicy
