import AccessPolicy.Fixture.Basic
import AccessPolicy.Proofs.CommandLine
import AccessPolicy.Proofs.Engine.WellFormed
import AccessPolicy.Proofs.Headers
import Mathlib.Data.List.TakeWhile

/-!
# Fixtures and the command line

A fixture describes a call as a record whose headers are a map, and the command line describes one
by arguments. Both build a call from what they have, header by header, but the one in the order of
names, and the other in the order in which headers were given. This module shows that the two calls
cannot be told apart, whenever the headers can be given as arguments and no two of their names are
equal apart from case, and so that a fixture finds for each case what the command line shows.

Main results:

* `Arguments.read_of_spelled` — what is spelled is taken in, one thing after the other;
* `Arguments.collects_foldlM_take` — what can be taken in is kept, all of it;
* `CallSpec.GivenBy.request_eq` — arguments that say the same make the same request;
* `Command.eval_decides_as_fixture` — the command line shows the decisions of a fixture.
-/

namespace AccessPolicy

namespace Arguments

/-! ## Spelling what is asked for -/

/-- The names of options that may be given once. -/
def singleNames : List String := ["method", "principal", "source", "destination"]

/-- The names of options that take a value. -/
def optionNames : List String := "header" :: singleNames

/-- The ways to spell one thing that is asked for. -/
inductive ItemSpelled : Item → List String → Prop where
  | attached {name : String} (hname : name ∈ optionNames) (value : String) :
    ItemSpelled (.option name value) ["--" ++ name ++ "=" ++ value]
  /-- A value that stands apart must not look like an option. -/
  | apart {name value : String} (hname : name ∈ optionNames) (hvalue : isOption value = false) :
    ItemSpelled (.option name value) ["--" ++ name, value]
  | file {name : String} (hname : isOption name = false) : ItemSpelled (.file name) [name]

/-- The ways to spell some things that are asked for, in order. -/
inductive Spelled : List Item → List String → Prop where
  | nil : Spelled [] []
  | cons {item : Item} {items : List Item} {text rest : List String} (hitem : ItemSpelled item text)
    (hrest : Spelled items rest) : Spelled (item :: items) (text ++ rest)
  /-- Behind two hyphens everything is a file. -/
  | files (names : List String) : Spelled (names.map .file) ("--" :: names)

/-- An argument of two hyphens and something more is an option. -/
theorem isOption_of_hyphens {argument : String} {c : Char} {text : List Char}
    (h : argument.toList = '-' :: '-' :: c :: text) :
    argument ≠ "--" ∧ isOption argument = true := by
  constructor
  · rintro rfl
    simp at h
  · have hne : argument ≠ "-" := by
      rintro rfl
      simp at h
    simp [isOption, h, hne]

/-- The first equals sign divides a text. -/
theorem divide_join {name : List Char} (hplain : name.all (· ≠ '=')) (value : List Char) :
    (name ++ '=' :: value).takeWhile (· ≠ '=') = name ∧
      (name ++ '=' :: value).dropWhile (· ≠ '=') = '=' :: value := by
  have hchars := List.all_eq_true.mp hplain
  constructor
  · rw [List.takeWhile_append_of_pos hchars]
    simp
  · rw [List.dropWhile_append_of_pos hchars]
    simp

theorem read_of_itemSpelled {item : Item} {text : List String} (h : ItemSpelled item text)
    (arguments : Arguments) (rest : List String) :
    arguments.read (text ++ rest) = (arguments.take item).bind (·.read rest) := by
  -- what the name of an option has to be told apart from
  have hnames : ∀ name ∈ optionNames, name ≠ "trace" ∧ name.toList ≠ [] ∧
      name.toList.all (· ≠ '=') = true := by decide
  cases h with
  | @attached name hname value =>
    obtain ⟨-, hnonempty, hplain⟩ := hnames name hname
    obtain ⟨c, cs, hcs⟩ := List.exists_cons_of_ne_nil hnonempty
    have htext : ("--" ++ name ++ "=" ++ value).toList =
        '-' :: '-' :: (name.toList ++ '=' :: value.toList) := by simp
    obtain ⟨hend, hoption⟩ := isOption_of_hyphens (htext.trans (by rw [hcs]; rfl))
    obtain ⟨htake, hdrop⟩ := divide_join hplain value.toList
    rw [List.singleton_append, read.eq_3 _ _ _ hend, if_pos hoption]
    simp only [htext, htake, hdrop, String.ofList_toList]
    rfl
  | @apart name value hname hvalue =>
    obtain ⟨htrace, hnonempty, hplain⟩ := hnames name hname
    obtain ⟨c, cs, hcs⟩ := List.exists_cons_of_ne_nil hnonempty
    have htext : ("--" ++ name).toList = '-' :: '-' :: name.toList := by simp
    obtain ⟨hend, hoption⟩ := isOption_of_hyphens (htext.trans (by rw [hcs]))
    -- no equals sign is left to divide the argument
    have htake : name.toList.takeWhile (· ≠ '=') = name.toList :=
      List.takeWhile_eq_self_iff.mpr (List.all_eq_true.mp hplain)
    have hdrop : name.toList.dropWhile (· ≠ '=') = [] :=
      List.dropWhile_eq_nil_iff.mpr (List.all_eq_true.mp hplain)
    rw [List.cons_append, List.singleton_append, read.eq_3 _ _ _ hend, if_pos hoption]
    simp only [htext, htake, hdrop, String.ofList_toList]
    rw [if_neg htrace, hvalue, if_neg Bool.false_ne_true]
    rfl
  | @file name hname =>
    have hend : name ≠ "--" := by
      rintro rfl
      simp [isOption] at hname
    rw [List.singleton_append, read.eq_3 _ _ _ hend, hname, if_neg Bool.false_ne_true]
    rfl

/-- What is spelled is taken in, one thing after the other. -/
theorem read_of_spelled {items : List Item} {text : List String} (h : Spelled items text)
    (arguments : Arguments) : arguments.read text = items.foldlM take arguments := by
  -- what was taken in before changes from one thing to the next
  induction h generalizing arguments with
  | nil => rfl
  | cons hitem _ ih =>
    rw [read_of_itemSpelled hitem, List.foldlM_cons]
    exact congrArg _ (funext ih)
  | files names =>
    rw [List.foldlM_map, read]
    rfl

/-- The first equals sign of a header divides its name from its value. -/
theorem header?_join {name value : String} (hname : name ≠ "") (hplain : '=' ∉ name.toList) :
    header? (name ++ "=" ++ value) = some (name, value) := by
  have hchars : name.toList.all (· ≠ '=') = true := by
    rw [List.all_eq_true]
    intro c hc
    rw [decide_eq_true_eq]
    rintro rfl
    exact hplain hc
  have htext : (name ++ "=" ++ value).toList = name.toList ++ '=' :: value.toList := by simp
  have hempty : name.toList.isEmpty = false := by simpa using hname
  obtain ⟨htake, hdrop⟩ := divide_join hchars value.toList
  rw [header?, htext, htake, hdrop]
  simp [hempty]

/-! ## Taking things in -/

/-- The file that is asked for, if it is a file. -/
def Item.file? : Item → Option String
  | .file name => some name
  | _ => none

/-- The value that is given for an option, if it is this option. -/
def Item.option? (name : String) : Item → Option String
  | .option other value => if other = name then some value else none
  | _ => none

/-- What was given for an option that may be given once. -/
def given? (arguments : Arguments) : String → Option String
  | "method" => arguments.method
  | "principal" => arguments.principal
  | "source" => arguments.source
  | "destination" => arguments.destination
  | _ => none

/-- What arguments are when some things have been taken in: everything given is kept, in order. -/
structure Collects (start : Arguments) (items : List Item) (result : Arguments) : Prop where
  file : result.file.toList = start.file.toList ++ items.filterMap Item.file?
  given : ∀ name ∈ singleNames, (result.given? name).toList =
    (start.given? name).toList ++ items.filterMap (Item.option? name)
  headers : result.headers =
    start.headers ++ (items.filterMap (Item.option? "header")).filterMap header?
  explain : result.explain = start.explain

/-- What things have to be for arguments to take them in, other than the switch. -/
structure Acceptable (start : Arguments) (items : List Item) : Prop where
  names : ∀ name value, .option name value ∈ items → name ∈ optionNames
  switch : .explain ∉ items
  file : (start.file.toList ++ items.filterMap Item.file?).length ≤ 1
  nonempty : .file "" ∉ items
  given : ∀ name ∈ singleNames,
    ((start.given? name).toList ++ items.filterMap (Item.option? name)).length ≤ 1
  headers : ∀ text, .option "header" text ∈ items → (header? text).isSome

theorem Collects.trans {start middle result : Arguments} {items others : List Item}
    (h : Collects start items middle) (h' : Collects middle others result) :
    Collects start (items ++ others) result where
  file := by rw [h'.file, h.file, List.filterMap_append, List.append_assoc]
  given name hname := by
    rw [h'.given name hname, h.given name hname, List.filterMap_append, List.append_assoc]
  headers := by
    rw [h'.headers, h.headers, List.filterMap_append, List.filterMap_append, List.append_assoc]
  explain := h'.explain.trans h.explain

theorem Acceptable.of_collects {start next : Arguments} {item : Item} {items : List Item}
    (h : Acceptable start (item :: items)) (hnext : Collects start [item] next) :
    Acceptable next items where
  names name value hmem := h.names name value (List.mem_cons_of_mem _ hmem)
  switch hmem := h.switch (List.mem_cons_of_mem _ hmem)
  file := by
    rw [hnext.file, List.append_assoc, ← List.filterMap_append]
    exact h.file
  nonempty hmem := h.nonempty (List.mem_cons_of_mem _ hmem)
  given name hname := by
    rw [hnext.given name hname, List.append_assoc, ← List.filterMap_append]
    exact h.given name hname
  headers text hmem := h.headers text (List.mem_cons_of_mem _ hmem)

/-- An option that was not given yet is taken in. -/
theorem collects_withOption_single {start : Arguments} {name value : String}
    (hname : name ∈ singleNames) (hnew : start.given? name = none) :
    ∃ next, start.withOption name value = some next ∧
      Collects start [.option name value] next := by
  have hheader : ∀ single ∈ singleNames, single ≠ "header" := by decide
  have hitem : [Item.option name value].filterMap (Item.option? "header") = [] := by
    simp [Item.option?, hheader name hname]
  -- each option is put where nothing was, and nothing else changes
  simp only [singleNames, List.mem_cons, List.not_mem_nil, or_false] at hname
  rcases hname with rfl | rfl | rfl | rfl
  all_goals
    simp only [given?] at hnew
    rw [withOption, hnew, Option.isSome_none, if_neg Bool.false_ne_true]
    refine ⟨_, rfl, ?_, ?_, ?_, rfl⟩
    · simp [Item.file?]
    · simp [singleNames, given?, hnew, Item.option?]
    · simp [hitem]

theorem collects_take {start : Arguments} {item : Item} {items : List Item}
    (h : Acceptable start (item :: items)) :
    ∃ next, start.take item = some next ∧ Collects start [item] next := by
  cases item with
  | option name value =>
    rcases List.mem_cons.mp (h.names name value (List.mem_cons_self ..)) with rfl | hsingle
    · obtain ⟨header, hheader⟩ :=
        Option.isSome_iff_exists.mp (h.headers value (List.mem_cons_self ..))
      refine ⟨{ start with headers := start.headers ++ [header] }, ?_, ?_, ?_, ?_, rfl⟩
      · simp [take, withOption, hheader]
      · simp [Item.file?]
      · simp [singleNames, given?, Item.option?]
      · simp [Item.option?, hheader]
    · -- with what is already there it would be given twice
      have hone := h.given name hsingle
      have hnew : start.given? name = none := by
        cases hgiven : start.given? name with
        | none => rfl
        | some old => simp [hgiven, Item.option?] at hone
      exact collects_withOption_single hsingle hnew
  | explain => exact (h.switch (List.mem_cons_self ..)).elim
  | file name =>
    have hone := h.file
    have hnew : start.file = none := by
      cases hfile : start.file with
      | none => rfl
      | some old => simp [hfile, Item.file?] at hone
    have hname : name ≠ "" := by
      rintro rfl
      exact h.nonempty (List.mem_cons_self ..)
    refine ⟨{ start with file := some name }, ?_, ?_, ?_, ?_, rfl⟩
    · simp [take, withFile, hnew, hname]
    · simp [hnew, Item.file?]
    · simp [singleNames, given?, Item.option?]
    · simp [Item.option?]

/-- What can be taken in is taken in, all of it. -/
theorem collects_foldlM_take {start : Arguments} {items : List Item} (h : Acceptable start items) :
    ∃ result, items.foldlM take start = some result ∧ Collects start items result := by
  -- each step keeps what it takes in, and leaves the rest acceptable
  induction items generalizing start with
  | nil => exact ⟨start, rfl, by simp, by simp, by simp, rfl⟩
  | cons item items ih =>
    obtain ⟨next, htake, hnext⟩ := collects_take h
    obtain ⟨result, hfold, hresult⟩ := ih (h.of_collects hnext)
    refine ⟨result, ?_, hnext.trans hresult⟩
    rw [List.foldlM_cons, htake]
    exact hfold

end Arguments

/-! ## Calls -/

/-- The order in which headers with names of their own are added cannot be seen. -/
theorem Call.request_withHeaders_of_perm {call : Call} {headers others : List (String × String)}
    (hnone : call.headers = []) (hperm : headers.Perm others)
    (hdistinct : (others.map fun header => Text.lowerAscii header.1).Nodup) :
    (call.withHeaders headers).request = (call.withHeaders others).request := by
  have hdistinct' : (headers.map fun header => Text.lowerAscii header.1).Nodup :=
    (hperm.map _).nodup_iff.mpr hdistinct
  -- a header is found if it is among those given, and this does not depend on their order
  have hheader : (call.withHeaders headers).header? = (call.withHeaders others).header? := by
    funext name
    apply Option.ext
    intro value
    rw [header?_withHeaders_eq_some_iff hnone hdistinct',
      header?_withHeaders_eq_some_iff hnone hdistinct]
    simp only [hperm.mem_iff]
  have hstart : (call.headers.map Prod.fst ++ headers.map fun header =>
      Text.lowerAscii header.1).Nodup := by
    simpa [hnone] using hdistinct'
  have hstart' : (call.headers.map Prod.fst ++ others.map fun header =>
      Text.lowerAscii header.1).Nodup := by
    simpa [hnone] using hdistinct
  rw [request, request, hheader, headers_withHeaders hstart, headers_withHeaders hstart']

namespace CallSpec

/-- The argument that gives a header. -/
def headerText (header : String × String) : String :=
  header.1 ++ "=" ++ header.2

/-- Whether all headers can be given as arguments, each apart from the others. -/
structure HeadersGivable (spec : CallSpec) : Prop where
  nonempty : ∀ header ∈ spec.headers.entries, header.1 ≠ ""
  plain : ∀ header ∈ spec.headers.entries, '=' ∉ header.1.toList
  distinct : (spec.headers.entries.map fun header => Text.lowerAscii header.1).Nodup

/-- Whether some values give a text that is empty unless it is given. -/
def TextGiven (text : String) (values : List String) : Prop :=
  values = [text] ∨ text = "" ∧ values = []

/-- Whether some things that are asked for describe the same call, and name a file. Between
different options, and between headers, any order will do. -/
structure GivenBy (spec : CallSpec) (file : String) (items : List Arguments.Item) : Prop where
  names : ∀ name value, .option name value ∈ items → name ∈ Arguments.optionNames
  switch : .explain ∉ items
  file : items.filterMap Arguments.Item.file? = [file]
  method : TextGiven spec.method (items.filterMap (Arguments.Item.option? "method"))
  principal : items.filterMap (Arguments.Item.option? "principal") = spec.principal.toList
  headers : (items.filterMap (Arguments.Item.option? "header")).Perm
    (spec.headers.entries.map headerText)
  source : TextGiven spec.source (items.filterMap (Arguments.Item.option? "source"))
  destination : TextGiven spec.destination
    (items.filterMap (Arguments.Item.option? "destination"))

/-- The arguments that give headers are taken apart into just these. -/
theorem HeadersGivable.filterMap_header? {spec : CallSpec} (h : spec.HeadersGivable) :
    (spec.headers.entries.map headerText).filterMap Arguments.header? = spec.headers.entries := by
  rw [List.filterMap_map]
  refine (List.filterMap_congr fun header hmem => ?_).trans List.filterMap_some
  exact Arguments.header?_join (h.nonempty header hmem) (h.plain header hmem)

/-- A text that may be omitted is given once at most, and is what stands for it. -/
theorem TextGiven.getD {text : String} {values : List String} (h : TextGiven text values)
    {given : Option String} (hgiven : given.toList = values) : given.getD "" = text := by
  rcases h with rfl | ⟨rfl, rfl⟩
  · cases given <;> simp_all
  · cases given <;> simp_all

theorem TextGiven.length_le {text : String} {values : List String} (h : TextGiven text values) :
    values.length ≤ 1 := by
  rcases h with rfl | ⟨-, rfl⟩ <;> simp

theorem GivenBy.acceptable {spec : CallSpec} {file : String} {items : List Arguments.Item}
    (h : spec.GivenBy file items) (hspec : spec.HeadersGivable) (hfile : file ≠ "") :
    ({} : Arguments).Acceptable items where
  names := h.names
  switch := h.switch
  file := by simp [h.file]
  nonempty hmem := by
    have hname : "" ∈ items.filterMap Arguments.Item.file? :=
      List.mem_filterMap.mpr ⟨_, hmem, rfl⟩
    rw [h.file, List.mem_singleton] at hname
    exact hfile hname.symm
  given name hname := by
    have hprincipal : spec.principal.toList.length ≤ 1 := by cases spec.principal <;> simp
    simp only [Arguments.singleNames, List.mem_cons, List.not_mem_nil, or_false] at hname
    rcases hname with rfl | rfl | rfl | rfl
    -- every option is given for what the spec has, which is one value or none
    · simpa [Arguments.given?] using h.method.length_le
    · rwa [h.principal]
    · simpa [Arguments.given?] using h.source.length_le
    · simpa [Arguments.given?] using h.destination.length_le
  headers text hmem := by
    have htext : text ∈ items.filterMap (Arguments.Item.option? "header") :=
      List.mem_filterMap.mpr ⟨_, hmem, by simp [Arguments.Item.option?]⟩
    obtain ⟨header, hheader, rfl⟩ := List.mem_map.mp (h.headers.mem_iff.mp htext)
    rw [headerText, Arguments.header?_join (hspec.nonempty header hheader)
      (hspec.plain header hheader)]
    rfl

/-- Arguments that say the same as a spec make a call that conditions cannot tell from its own. -/
theorem GivenBy.request_eq {spec : CallSpec} {file : String} {items : List Arguments.Item}
    (h : spec.GivenBy file items) (hspec : spec.HeadersGivable) {result : Arguments}
    (hresult : ({} : Arguments).Collects items result) :
    result.call.request = spec.call.request := by
  -- nothing was there before, so what is kept is just what was given
  have hgiven (name : String) (hname : name ∈ Arguments.singleNames) :
      (result.given? name).toList = items.filterMap (Arguments.Item.option? name) := by
    have hnothing : (({} : Arguments).given? name).toList = [] := by
      unfold Arguments.given?
      split <;> rfl
    rw [hresult.given name hname, hnothing, List.nil_append]
  have hmethod : result.method.getD "" = spec.method :=
    h.method.getD (hgiven "method" (by decide))
  have hsource : result.source.getD "" = spec.source :=
    h.source.getD (hgiven "source" (by decide))
  have hdestination : result.destination.getD "" = spec.destination :=
    h.destination.getD (hgiven "destination" (by decide))
  have hprincipal : result.principal = spec.principal := by
    have hlist : result.principal.toList = spec.principal.toList :=
      (hgiven "principal" (by decide)).trans h.principal
    cases hname : spec.principal with
    | none => exact Option.toList_eq_nil_iff.mp (by rw [hlist, hname]; rfl)
    | some name => exact Option.toList_eq_singleton_iff.mp (by rw [hlist, hname]; rfl)
  have hheaders : result.headers.Perm spec.headers.entries := by
    rw [hresult.headers, ← hspec.filterMap_header?]
    exact h.headers.filterMap _
  unfold Arguments.call call
  rw [hmethod, hsource, hdestination, hprincipal]
  exact Call.request_withHeaders_of_perm rfl hheaders hspec.distinct

end CallSpec

/-! ## Cases -/

/-- Whether a result is what an engine makes of a case. -/
structure Case.AnsweredBy (engine : Engine) (case_ : Case) (result : CaseResult) : Prop where
  name : result.name = case_.name
  expected : result.expected = case_.expected
  actual : result.actual = engine.evaluate case_.spec.call.request
  passed : result.passed = true ↔ result.actual.verdict = case_.expected.verdict ∧
    result.actual.policy = case_.expected.policy

theorem Case.answeredBy_run (engine : Engine) (case_ : Case) :
    case_.AnsweredBy engine (case_.run engine) where
  name := rfl
  expected := rfl
  actual := rfl
  passed := by
    rw [CaseResult.passed, beq_iff_eq, Decision.mk.injEq]
    rfl

/-- The results of the cases of a fixture come one for each, in order. -/
theorem Fixture.run_of_compile {fixture : Fixture} {engine : Engine}
    (h : fixture.document.compile = .ok engine) :
    fixture.run = .ok (fixture.cases.map (Case.run engine)) := by
  rw [run, h]
  rfl

namespace Command

/-- Deciding on a call that is described by arguments shows the decision on the call of the spec. -/
theorem outcome_of_givenBy {contents : String → Option String} {document : Document}
    {engine : Engine} (hcompile : document.compile = .ok engine) {file text : String}
    (hname : file ≠ "") (hfile : contents file = some text)
    (hdocument : Document.ofText (formatOf file) text = .ok document) {spec : CallSpec}
    (hspec : spec.HeadersGivable) {items : List Arguments.Item} (hitems : spec.GivenBy file items)
    {arguments : List String} (harguments : Arguments.Spelled items arguments) :
    ∃ call, ofArguments? ("eval" :: arguments) = some (.eval file call false) ∧
      call.request = spec.call.request ∧
      outcome contents ("eval" :: arguments) =
        ⟨0, (engine.evaluate spec.call.request).text ++ "\n", ""⟩ := by
  obtain ⟨result, hfold, hresult⟩ :=
    Arguments.collects_foldlM_take (hitems.acceptable hspec hname)
  have hrequest : result.call.request = spec.call.request := hitems.request_eq hspec hresult
  have hresultFile : result.file = some file :=
    Option.toList_eq_singleton_iff.mp (by rw [hresult.file, hitems.file]; rfl)
  have hcommand : ofArguments? ("eval" :: arguments) = some (.eval file result.call false) := by
    rw [ofArguments?, Arguments.read_of_spelled harguments, hfold]
    simp [hresultFile, hresult.explain]
  have hload : loadFile file (contents file) = .ok engine := by
    rw [hfile]
    exact loadFile_of_ofText hdocument hcompile
  refine ⟨result.call, hcommand, hrequest, ?_⟩
  rw [outcome, hcommand]
  simp only
  rw [run, Command.file, hload, ← hrequest]
  exact tells_answer engine (.eval file result.call false)

/-- A fixture and the command line decide alike. -/
theorem eval_decides_as_fixture {fixture : Fixture} {engine : Engine}
    (hcompile : fixture.document.compile = .ok engine) :
    ∃ results, fixture.run = .ok results ∧
      List.Forall₂ (fun case_ result => case_.AnsweredBy engine result ∧
        (case_.spec.HeadersGivable →
          (∀ header ∈ case_.spec.headers.entries,
            Arguments.header? (CallSpec.headerText header) = some header) ∧
          ∀ (contents : String → Option String) (file text : String), file ≠ "" →
            contents file = some text →
            Document.ofText (formatOf file) text = .ok fixture.document →
            ∀ items arguments, case_.spec.GivenBy file items → Arguments.Spelled items arguments →
              ∃ call, ofArguments? ("eval" :: arguments) = some (.eval file call false) ∧
                call.request = case_.spec.call.request ∧
                outcome contents ("eval" :: arguments) = ⟨0, result.actual.text ++ "\n", ""⟩))
        fixture.cases results := by
  refine ⟨_, Fixture.run_of_compile hcompile, ?_⟩
  rw [List.forall₂_map_right_iff, List.forall₂_same]
  intro case_ _
  refine ⟨case_.answeredBy_run engine, fun hspec => ⟨fun header hheader => ?_, ?_⟩⟩
  · exact Arguments.header?_join (hspec.nonempty header hheader) (hspec.plain header hheader)
  · intro contents file text hname hfile hdocument items arguments hitems harguments
    exact outcome_of_givenBy hcompile hname hfile hdocument hspec hitems harguments

/-! ### A header with an equals sign in its value -/

/-- A document that denies calls with a certain header. -/
def headerDenialText : String :=
  "\x7b\"action\": \"DENY\", \"policies\": \x7b\"p\": \x7b" ++
    "\"permissions\": [\x7b\"header\": " ++
    "\x7b\"name\": \"x-b\", \"exact_match\": \"1=2\"\x7d\x7d], " ++
    "\"principals\": [\x7b\"any\": true\x7d]\x7d\x7d\x7d"

/-- A case for this document: a call with that header, and one that is empty. -/
def bothHeaders : Case where
  name := "both headers"
  spec := { headers := .ofList [("X-A", ""), ("x-b", "1=2")] }
  expected := ⟨.deny, some "p"⟩

def headerDenial : Fixture where
  name := "denial"
  document := ⟨.deny, .ofList
    [("p", ⟨[.header { name := "x-b", exact := some "1=2" }], [.any true]⟩)]⟩
  cases := [bothHeaders]

theorem ofText_headerDenialText :
    Document.ofText .json headerDenialText = .ok headerDenial.document := by
  have hjson : Json.ofText headerDenialText =
      (.object [(.string (some "action"), .string (some "DENY")),
        (.string (some "policies"), .object [(.string (some "p"), .object
          [(.string (some "permissions"), .array [.object [(.string (some "header"), .object
              [(.string (some "name"), .string (some "x-b")),
                (.string (some "exact_match"), .string (some "1=2"))])]]),
            (.string (some "principals"),
              .array [.object [(.string (some "any"), .bool true)]])])])], true) := by cbv
  rw [Document.ofText, Document.ofJsonText, Json.readAll, hjson]
  rfl

/-- The policy of the document. -/
def headerDenialPolicy : Policy :=
  .ofRules "p" [.header (.ofName "x-b" (.exact "1=2") false)] [.always]

theorem compile_headerDenial : ∃ engine, headerDenial.document.compile = .ok engine ∧
    engine.action = .deny ∧ engine.policies = [headerDenialPolicy] := by
  have hwell : Engine.WellFormed [headerDenialPolicy] := by decide +kernel
  obtain ⟨engine, hengine⟩ := (Engine.exists_ofPolicies_iff .deny).mpr hwell
  obtain ⟨haction, hpolicies⟩ := Engine.ofPolicies_eq_ok hengine
  exact ⟨engine, hengine, haction, hpolicies⟩

theorem evaluate_bothHeaders {engine : Engine} (haction : engine.action = .deny)
    (hpolicies : engine.policies = [headerDenialPolicy]) :
    engine.evaluate bothHeaders.spec.call.request = bothHeaders.expected := by
  have hmatch : headerDenialPolicy.holds bothHeaders.spec.call.request = true := by decide +kernel
  rw [Engine.evaluate, hpolicies, List.find?_cons, hmatch, Engine.decide, haction]
  rfl

theorem formatOf_json : formatOf "a.json" = .json := by
  have hparts : "a.json".splitOn "/" = ["a.json"] := by
    simp +decide [String.splitOn, String.splitOnAux]
  have hdots : "a.json".splitOn "." = ["a", "json"] := by
    simp +decide [String.splitOn, String.splitOnAux]
  have hlast : lastPart? "a.json" = some "a.json" := by
    rw [lastPart?, hparts]
    decide
  rw [formatOf, hlast, Option.getD_some, hdots]
  decide

theorem givenBy_bothHeaders : bothHeaders.spec.GivenBy "a.json"
    [.option "header" "x-b=1=2", .file "a.json", .option "header" "X-A="] where
  names := by
    intro name value hmem
    obtain ⟨rfl, -⟩ | ⟨rfl, -⟩ : name = "header" ∧ value = "x-b=1=2" ∨
        name = "header" ∧ value = "X-A=" := by simpa using hmem
    all_goals decide
  switch := by simp
  file := by decide
  method := .inr (by decide)
  principal := by decide
  headers := by decide
  source := .inr (by decide)
  destination := .inr (by decide)

/-- The headers are given against the order of their names, one attached and one apart, around the
name of the file. -/
theorem eval_decides_as_fixture_headers :
    (∃ engine, headerDenial.document.compile = .ok engine) ∧
      headerDenial.run = .ok [⟨"both headers", bothHeaders.expected, ⟨.deny, some "p"⟩⟩] ∧
      outcome (fun _ => some headerDenialText)
        ["eval", "--header", "x-b=1=2", "a.json", "--header=X-A="] = ⟨0, "DENY (p)\n", ""⟩ := by
  obtain ⟨engine, hcompile, haction, hpolicies⟩ := compile_headerDenial
  obtain ⟨results, hrun, hresults⟩ := eval_decides_as_fixture hcompile
  obtain ⟨⟨name, expected, actual⟩, rest, ⟨hanswer, hcommand⟩, hrest, rfl⟩ :=
    List.forall₂_cons_left_iff.mp hresults
  obtain rfl := List.forall₂_nil_left_iff.mp hrest
  obtain rfl : name = bothHeaders.name := hanswer.name
  obtain rfl : expected = bothHeaders.expected := hanswer.expected
  obtain rfl : actual = bothHeaders.expected :=
    hanswer.actual.trans (evaluate_bothHeaders haction hpolicies)
  have hgivable : bothHeaders.spec.HeadersGivable := ⟨by decide, by decide, by decide⟩
  have hspelled : Arguments.Spelled
      [.option "header" "x-b=1=2", .file "a.json", .option "header" "X-A="]
      ["--header", "x-b=1=2", "a.json", "--header=X-A="] :=
    .cons (.apart (by decide) (by decide)) <| .cons (.file (by decide)) <|
      .cons (.attached (by decide) "X-A=") .nil
  obtain ⟨-, -, -, houtcome⟩ := (hcommand hgivable).2 (fun _ => some headerDenialText) "a.json"
    headerDenialText (by decide) rfl (by rw [formatOf_json]; exact ofText_headerDenialText) _ _
    givenBy_bothHeaders hspelled
  exact ⟨⟨engine, hcompile⟩, hrun, houtcome⟩

end Command

end AccessPolicy
