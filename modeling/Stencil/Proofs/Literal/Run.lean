/-
  The run of the program of a template without code.

  * `running base granted cells tables functions`: the store of an environment with what the
    program has asked for and made so far;
  * `continues_append`, `run_appends`: a statement appends its text to the sequence of
    texts, and so do any number of them, by induction;
  * `run_execute`: the function that renders ends with the texts in their order, after the
    warning if the machine does not know the locale;
  * `evaluate_tree`: the output is the concatenation of the texts.
-/
import Stencil.Execution
import Stencil.Proofs.Literal.Tree
import Stencil.Proofs.Lua.Running

namespace Stencil.Literal

open Lua Eval Text.Utf8

/-! ## Stores -/

/-- The store of an environment with the granted requests, the cells, the tables and the functions
    of the program. -/
def running (base : Store) (granted : List (Bytes × Bytes)) (cells : List Value)
    (tables : List Table) (functions : List Closure) : Store :=
  ⟨cells.toArray, base.tables ++ tables.toArray, functions.toArray, granted⟩

section

variable {base : Store} {granted : List (Bytes × Bytes)} {cells : List Value} {tables : List Table}
  {functions : List Closure}

theorem running_nil {libraries : List Library} (h : Linked libraries base) :
    running base [] [] [] [] = base := by
  simp [running, ← h.cells, ← h.closures, ← h.granted]

theorem table_running_of_lt {id : Nat} (hid : id < base.tables.size) :
    (running base granted cells tables functions).table id = base.table id := by
  simp only [running, Store.table, Array.getD_eq_getD_getElem?, Array.getElem?_append_left hid]

theorem table_running (i : Nat) :
    (running base granted cells tables functions).table (base.tables.size + i) = tables.getD i .empty := by
  simp [running, Store.table, Array.getD_eq_getD_getElem?,
    Array.getElem?_append_right (Nat.le_add_right _ _)]

theorem global_running {libraries : List Library} (h : Linked libraries base) (name : String) :
    (running base granted cells tables functions).global name = base.global name := by
  rw [Store.global, table_running_of_lt (Nat.lt_trans (by decide) h.fixed)]
  rfl

theorem newCell_running (v : Value) :
    newCell v (running base granted cells tables functions) =
      .ok cells.length (running base granted (cells ++ [v]) tables functions) := by
  show EStateM.Result.ok cells.toArray.size (Store.mk (cells.toArray.push v) _ _ _) = _
  rw [List.push_toArray, List.size_toArray]
  rfl

theorem newTable_running (t : Table) :
    newTable t (running base granted cells tables functions) =
      .ok (.table (base.tables.size + tables.length))
        (running base granted cells (tables ++ [t]) functions) := by
  show EStateM.Result.ok (Value.table (base.tables ++ tables.toArray).size)
    (Store.mk _ ((base.tables ++ tables.toArray).push t) _ _) = _
  rw [← Array.append_push, List.push_toArray, Array.size_append, List.size_toArray]
  rfl

theorem newClosure_running (c : Closure) :
    newClosure c (running base granted cells tables functions) =
      .ok (.function functions.length) (running base granted cells tables (functions ++ [c])) := by
  show EStateM.Result.ok (Value.function functions.toArray.size)
    (Store.mk _ _ (functions.toArray.push c) _) = _
  rw [List.push_toArray, List.size_toArray]
  rfl

theorem modifyTable_running (i : Nat) (change : Table → Table) :
    modifyTable (base.tables.size + i) change (running base granted cells tables functions) =
      .ok () (running base granted cells (tables.modify i change) functions) := by
  have htables : (base.tables ++ tables.toArray).modify (base.tables.size + i) change =
      base.tables ++ (tables.modify i change).toArray := by
    apply Array.ext_getElem?
    intro j
    rw [Array.getElem?_modify]
    rcases Nat.lt_or_ge j base.tables.size with hj | hj
    · rw [if_neg (by omega), Array.getElem?_append_left hj, Array.getElem?_append_left hj]
    · obtain ⟨d, rfl⟩ := Nat.exists_eq_add_of_le hj
      rw [Array.getElem?_append_right hj, Array.getElem?_append_right hj, Nat.add_sub_cancel_left,
        List.getElem?_toArray, List.getElem?_toArray, List.getElem?_modify]
      by_cases hd : i = d
      · simp [hd]
      · simp [hd]
  show EStateM.Result.ok ()
    (Store.mk _ ((base.tables ++ tables.toArray).modify (base.tables.size + i) change) _ _) = _
  rw [htables]
  rfl

end

/-! ## Appending texts -/

section

variable {base : Store} {granted : List (Bytes × Bytes)} {cells : List Value} {g b : Table}
  {functions : List Closure} {call : Call} {frame : Frame} {env : Env}

/-- A statement that appends a text puts it behind the last one. -/
theorem continues_append {i : Nat} {name : Bytes} {upvalue : Bool} {xs : List Value} {line : Nat}
    (hb : b.IsSequence xs) (hlimit : xs.length < Number.wholeLimit) (hi : i < env.length)
    (hcell : cells.toArray.getD (env.getD i 0) .nil = .table (base.tables.size + 1))
    (content : Bytes) :
    ∃ b', b'.IsSequence (xs ++ [.string content]) ∧
      Continues call frame (append (.localVar i name upvalue) line content) env
        (running base granted cells [g, b] functions) env (running base granted cells [g, b'] functions) := by
  let s := running base granted cells [g, b] functions
  let key : Value := .number (.whole (xs.length + 1 : Nat))
  have hplain : (s.table (base.tables.size + 1)).metatable? = none := by
    rw [table_running]
    exact hb.metatable
  have hlength : (s.table (base.tables.size + 1)).length = xs.length := by
    rw [table_running]
    exact hb.length_eq (Nat.le_of_lt hlimit)
  have hbuilder : evaluate call frame env (.localVar i name upvalue) s =
      .ok [.table (base.tables.size + 1)] s := by
    rw [evaluate_localVar]
    exact congrArg (EStateM.Result.ok [·] s) hcell
  obtain ⟨o, hobject, hread⟩ : ∃ o, operand env (.localVar i name upvalue)
      (evaluate call frame env (.localVar i name upvalue)) s = .ok o s ∧ _ :=
    operand_localVar i name upvalue hi
  have hkey : evaluate call frame env (.binary (.arithmetic .add)
      (.unary .length (.localVar i name upvalue) line) (.number (.whole 1)) line) s = .ok [key] s := by
    have hcount : operand env (.unary .length (.localVar i name upvalue) line) (evaluate call frame
        env (.unary .length (.localVar i name upvalue) line)) s =
          .ok (.now (.number (.whole xs.length))) s := by
      refine (bind_of_ok (evaluate_length hbuilder hplain)).trans ?_
      rw [hlength, Value.ofNat, Number.ofNat, Number.ofInt_natCast (Nat.le_of_lt hlimit)]
      rfl
    have hsum : Operation.compute .add (.whole xs.length) (.whole 1) =
        .whole (xs.length + 1 : Nat) := Number.ofInt_natCast hlimit
    rw [evaluate_arithmetic hcount rfl, hsum]
  refine ⟨b.set key (.string content), hb.set rfl, ?_⟩
  refine continues_assign hobject (k := .now key) ((bind_of_ok hkey).trans rfl) rfl (hread s rfl) rfl ?_
  have hobject : s.cells.getD (env.getD i 0) .nil = .table (base.tables.size + 1) := hcell
  rw [hobject]
  refine setIndex_of_rawSet hplain ?_
  exact modifyTable_running 1 (·.set key (.string content))

/-- Statements that append texts, from a line on. -/
theorem run_appends {contents : List Bytes} {xs : List Value} (line : Nat)
    (hb : b.IsSequence xs) (hlimit : xs.length + contents.length ≤ Number.wholeLimit)
    (henv : 1 < env.length)
    (hcell : cells.toArray.getD (env.getD 1 0) .nil = .table (base.tables.size + 1)) :
    ∃ b', b'.IsSequence (xs ++ contents.map .string) ∧
      runStraight (actions call frame (appends line contents)) env
        (running base granted cells [g, b] functions) =
          .ok (env, .next) (running base granted cells [g, b'] functions) := by
  induction contents generalizing xs line b with
  | nil =>
    refine ⟨b, ?_, runStraight_nil⟩
    rwa [List.map_nil, List.append_nil]
  | cons content rest ih =>
    rw [List.length_cons] at hlimit
    obtain ⟨b₁, hb₁, hfirst⟩ : ∃ b₁, b₁.IsSequence (xs ++ [.string content]) ∧
        Continues call frame (append outerBuilder line content) env
          (running base granted cells [g, b] functions) env (running base granted cells [g, b₁] functions) :=
      continues_append hb (by omega) henv hcell content
    have hlength : (xs ++ [Value.string content]).length + rest.length ≤ Number.wholeLimit := by
      rw [List.length_append, List.length_singleton]
      omega
    obtain ⟨b₂, hb₂, hrest⟩ := ih (line + 1) hb₁ hlength
    refine ⟨b₂, ?_, ?_⟩
    · rwa [List.append_assoc] at hb₂
    · rw [appends, runStraight_next hfirst]
      exact hrest

end

/-! ## What the environment holds -/

section

variable {libraries : List Library} {base : Store} (h : Linked libraries base) {call : Call}
  {frame : Frame} {env : Env} {granted : List (Bytes × Bytes)} {cells : List Value}
  {tables : List Table} {functions : List Closure} {line line' n : Nat}

include h

/-- What a library holds, while the program runs. -/
theorem evaluate_entry {l : Library} (hl : l ∈ libraries) {e : String × Value}
    (he : e ∈ libraryEntries l) (hv : e.2.isNil = false) :
    evaluate call frame env (.index (.global (bytes (String.ofList l.name)) line)
        (.string (bytes e.1)) line') (running base granted cells tables functions) =
      .ok [e.2] (running base granted cells tables functions) := by
  obtain ⟨id, hid, hglobal, hfield⟩ := h.entry hl he
  have hglobal' : (running base granted cells tables functions).global (String.ofList l.name) =
      .table id := by
    rw [global_running h]
    exact hglobal
  refine evaluate_member hv hglobal' ?_
  rw [table_running_of_lt hid]
  exact hfield

/-- A function that is always there, while the program runs. -/
theorem evaluate_base {f : BaseFunction} (hf : f ∈ BaseFunction.all) :
    evaluate call frame env (.global (bytes f.name) line) (running base granted cells tables functions) =
      .ok [.builtin (.base f)] (running base granted cells tables functions) := by
  refine evaluate_global rfl ?_
  rw [global_running h]
  exact h.base (f.name, .builtin (.base f)) (mem_baseEntries hf)

/-- A call of `os.setlocale` with a text or with nothing. -/
theorem evaluate_setlocale [Locales] (hos : .os ∈ libraries) {args : List Expr} {vs : List Value}
    {name? : Option Bytes}
    (hargs : evaluateAll (callWithin (n + 1)) frame env args
      (running base granted cells tables functions) =
        .ok vs (running base granted cells tables functions))
    (hvs : vs = [] ∧ name? = none ∨ vs = [valueOf name?]) :
    evaluate (callWithin (n + 1)) frame env (setlocale line args)
        (running base granted cells tables functions) =
      .ok [valueOf (Locales.answer? granted (bytes "all") (name?.map untilNul))]
        (running base (Locales.grant granted (bytes "all") (name?.map untilNul)) cells tables
          functions) := by
  have hcallee : evaluate (callWithin (n + 1)) frame env
      (.index (.global (bytes "os") line) (.string (bytes "setlocale")) line)
      (running base granted cells tables functions) =
        .ok [.builtin .setlocale] (running base granted cells tables functions) :=
    evaluate_entry h hos (e := ("setlocale", .builtin .setlocale)) List.mem_cons_self rfl
  rw [setlocale]
  refine (evaluate_call rfl hcallee hargs).trans ?_
  rw [callWithin_builtin]
  exact runSetlocale_eq hvs

end

/-! ## The function that renders -/

/-- Whether the machine knows a locale when a program asks for it. -/
def Knows [Locales] (name : Text) : Prop :=
  Locales.answer? [] (bytes "all") (some (untilNul (encode name))) ≠ none

instance [Locales] (name : Text) : Decidable (Knows name) :=
  inferInstanceAs (Decidable (_ ≠ _))

/-- The line for a locale that is not known. -/
def warning (name : Text) : Text :=
  "#warning The culture \"".toList ++ name ++
    "\" could not be resolved. This source is generated using the invariant culture.\n".toList

theorem localeWarning_eq (name : Text) : Program.localeWarning name = warning name := rfl

/-- What the output begins with: the warning, if the locale is not known. -/
def warnings [Locales] : Option Text → List Text
  | none => []
  | some name => if Knows name then [] else [warning name]

theorem length_warnings_le [Locales] (locale : Option Text) : (warnings locale).length ≤ 1 := by
  cases locale with
  | none => exact Nat.zero_le 1
  | some name =>
    rw [warnings]
    split
    · exact Nat.zero_le 1
    · exact Nat.le_refl 1

section

variable {libraries : List Library} {base : Store} (h : Linked libraries base)
  {granted : List (Bytes × Bytes)} {cells : List Value} {tables : List Table} {g b : Table}
  {functions : List Closure} {frame : Frame} {env : Env} {n : Nat} {locale : Option Text}
  {contents : List Bytes}

/-- A local that holds a new table. -/
theorem continues_table {call : Call} :
    Continues call frame (.locals 1 [.table []]) env (running base granted cells tables functions)
      (cells.length :: env)
      (running base granted (cells ++ [.table (base.tables.size + tables.length)]) (tables ++ [.empty])
        functions) := by
  have hvalues : evaluateAll call frame env [.table []] (running base granted cells tables functions) =
      .ok [.table (base.tables.size + tables.length)]
        (running base granted cells (tables ++ [.empty]) functions) := by
    rw [evaluateAll, evaluate]
    exact (bind_of_ok (newTable_running .empty)).trans rfl
  exact continues_locals hvalues (bind_of_ok (newCell_running _))

variable [Locales]

include h

theorem evaluate_previous_locale (hos : .os ∈ libraries) :
    evaluateAll (callWithin (n + 1)) frame env [setlocale 7 []]
        (running base [] cells tables functions) =
      .ok [valueOf (Locales.answer? [] (bytes "all") none)]
        (running base [] cells tables functions) := by
  have hargs : evaluateAll (callWithin (n + 1)) frame env []
      (running base [] cells tables functions) = .ok [] (running base [] cells tables functions) := rfl
  exact evaluate_setlocale h hos hargs (.inl ⟨rfl, rfl⟩)

/-- A request for a locale by its name. -/
theorem evaluate_named_locale (hos : .os ∈ libraries) (line : Nat) (name : Bytes) :
    evaluate (callWithin (n + 1)) frame env (setlocale line [.string name])
        (running base granted cells tables functions) =
      .ok [valueOf (Locales.answer? granted (bytes "all") (some (untilNul name)))]
        (running base (Locales.grant granted (bytes "all") (some (untilNul name))) cells tables
          functions) := by
  have hargs : evaluateAll (callWithin (n + 1)) frame env [.string name]
      (running base granted cells tables functions) =
        .ok [valueOf (some name)] (running base granted cells tables functions) := rfl
  exact evaluate_setlocale h hos hargs (.inr rfl)

/-- A request for a locale tells whether it is unknown. -/
theorem evaluate_unknown (hos : .os ∈ libraries) (line : Nat) (name : Bytes) :
    evaluate (callWithin (n + 1)) frame env
        (.binary (.comparison .eq) (setlocale line [.string name]) .nil line)
        (running base granted cells tables functions) =
      .ok [.bool (Locales.answer? granted (bytes "all") (some (untilNul name))).isNone]
        (running base (Locales.grant granted (bytes "all") (some (untilNul name))) cells tables
          functions) := by
  let answer? := Locales.answer? granted (bytes "all") (some (untilNul name))
  have hname : operand env (setlocale line [.string name])
      (evaluate (callWithin (n + 1)) frame env (setlocale line [.string name]))
      (running base granted cells tables functions) =
        .ok (.now (valueOf answer?)) (running base
          (Locales.grant granted (bytes "all") (some (untilNul name))) cells tables functions) :=
    (bind_of_ok (evaluate_named_locale h hos line name)).trans rfl
  have hnone : (valueOf answer?).isNil = answer?.isNone := by cases answer? <;> rfl
  exact (evaluate_eq_nil hname).trans (by rw [hnone])

variable (granted functions frame)

/-- The cells before the texts are appended. -/
def openCells (base : Store) : List Value :=
  [.table base.tables.size, .table (base.tables.size + 1),
    valueOf (Locales.answer? [] (bytes "all") none)]

/-- In place of an unknown locale `C` is chosen, and the warning is appended. -/
theorem runBlock_unknown (hos : .os ∈ libraries) (name : Text) :
    ∃ b, b.IsSequence [.string (encode (warning name))] ∧
      runBlock (actions (callWithin (n + 1)) frame
          [.call (setlocale 9 [.string (bytes "C")]), append (.localVar 1 (bytes "builder") false) 10
            (encode (Program.localeWarning name))]) [2, 1, 0]
          (running base granted (openCells base) [g, .empty] functions) =
        .ok ([2, 1, 0], .next) (running base (Locales.grant granted (bytes "all") (some (bytes "C")))
          (openCells base) [g, b] functions) := by
  let chosen := Locales.grant granted (bytes "all") (some (bytes "C"))
  obtain ⟨b, hb, hwarn⟩ : ∃ b, b.IsSequence [.string (encode (warning name))] ∧
      Continues (callWithin (n + 1)) frame (append (.localVar 1 (bytes "builder") false) 10
        (encode (warning name))) [2, 1, 0]
        (running base chosen (openCells base) [g, .empty] functions) [2, 1, 0]
        (running base chosen (openCells base) [g, b] functions) :=
    continues_append Table.isSequence_empty (by decide) (by decide) rfl _
  refine ⟨b, hb, runBlock_of_straight ?_ (by simp)⟩
  rw [localeWarning_eq, runStraight_next (continues_call (evaluate_named_locale h hos 9 (bytes "C")))]
  exact runStraight_next hwarn

/-- The choice of the locale leaves the warning, if there is one, as the only text. -/
theorem run_chooseLocale (hos : .os ∈ libraries) :
    ∃ b granted, b.IsSequence (((warnings locale).map encode).map .string) ∧ ∀ rest,
      runStraight (actions (callWithin (n + 1)) frame (chooseLocale 8 locale ++ rest)) [2, 1, 0]
          (running base [] (openCells base) [g, .empty] functions) =
        runStraight (actions (callWithin (n + 1)) frame rest) [2, 1, 0]
          (running base granted (openCells base) [g, b] functions) := by
  cases locale with
  | none =>
    exact ⟨.empty, _, Table.isSequence_empty, fun _ =>
      runStraight_next (continues_call (evaluate_named_locale h hos 8 (bytes "C")))⟩
  | some name =>
    let asked := Locales.grant [] (bytes "all") (some (untilNul (encode name)))
    have hcondition : evaluate (callWithin (n + 1)) frame [2, 1, 0] (.binary (.comparison .eq)
        (setlocale 8 [.string (encode name)]) .nil 8)
        (running base [] (openCells base) [g, .empty] functions) =
          .ok [.bool (Locales.answer? [] (bytes "all") (some (untilNul (encode name)))).isNone]
            (running base asked (openCells base) [g, .empty] functions) :=
      evaluate_unknown h hos 8 (encode name)
    by_cases hknown : Knows name
    · refine ⟨.empty, _, ?_, fun _ => runStraight_next (continues_if_false hcondition ?_)⟩
      · rw [warnings, if_pos hknown]
        exact Table.isSequence_empty
      · rw [Option.isNone_eq_false_iff.2 (Option.isSome_iff_ne_none.2 hknown)]
        rfl
    · obtain ⟨b, hb, hblock⟩ :=
        runBlock_unknown (g := g) (n := n) h asked functions frame hos name
      refine ⟨b, _, ?_, fun _ => runStraight_next (continues_if_true hcondition ?_ hblock)⟩
      · rw [warnings, if_neg hknown]
        exact hb
      · rw [Option.isNone_iff_eq_none.2 (not_not.1 hknown)]
        rfl

/-- The texts are appended inside of a call that stops errors. -/
theorem continues_pcall (locale : Option Text) {xs : List Value} (hb : b.IsSequence xs)
    (hlimit : xs.length + contents.length ≤ Number.wholeLimit) :
    ∃ b', b'.IsSequence (xs ++ contents.map .string) ∧
      Continues (callWithin (n + 2)) frame
        (.locals 2 [pcall (firstLine locale) (texts locale contents)]) [2, 1, 0]
        (running base granted (openCells base) [g, b] functions) [4, 3, 2, 1, 0]
        (running base granted (openCells base ++ [.bool true, .nil]) [g, b']
          (functions ++ [.lua (texts locale contents) [2, 1, 0]])) := by
  let s := running base granted (openCells base) [g, b] functions
  let functions' := functions ++ [Closure.lua (texts locale contents) [2, 1, 0]]
  let s₁ := running base granted (openCells base) [g, b] functions'
  let sites : Sites :=
    .native :: .lua (firstLine locale) (some (.global, bytes "pcall")) :: frame.sites
  obtain ⟨b', hb', hbody⟩ : ∃ b', b'.IsSequence (xs ++ contents.map .string) ∧
      runStraight (actions (callWithin n) ⟨[], sites⟩ (appends (firstLine locale + 1) contents))
        [2, 1, 0] s₁ = .ok ([2, 1, 0], .next) (running base granted (openCells base) [g, b'] functions') :=
    run_appends (firstLine locale + 1) hb hlimit (by decide) rfl
  have hclosure : s₁.closures[functions.length]? =
      some (.lua (texts locale contents) [2, 1, 0]) := by
    simp [s₁, running, functions']
  have hcallee : evaluate (callWithin (n + 2)) frame [2, 1, 0]
      (.global (bytes "pcall") (firstLine locale)) s = .ok [.builtin (.base .pcall)] s :=
    evaluate_base h (f := .pcall) (by decide)
  have hargs : evaluateAll (callWithin (n + 2)) frame [2, 1, 0]
      [.function (texts locale contents)] s = .ok [.function functions.length] s₁ := by
    rw [evaluateAll, evaluate]
    exact (bind_of_ok (newClosure_running _)).trans rfl
  have hvalues : evaluateAll (callWithin (n + 2)) frame [2, 1, 0]
      [pcall (firstLine locale) (texts locale contents)] s =
        .ok [.bool true] (running base granted (openCells base) [g, b'] functions') := by
    rw [evaluateAll]
    refine (evaluate_call rfl hcallee hargs).trans ?_
    rw [callWithin_builtin]
    exact runPcall_of_ok rfl (callWithin_of_next hclosure hbody)
  refine ⟨b', hb', continues_locals hvalues ?_⟩
  exact (bind_of_ok (newCell_running _)).trans (bind_of_ok (newCell_running _))

/-- The granted requests after the first locale is asked for again. -/
def restored : List (Bytes × Bytes) :=
  Locales.grant granted (bytes "all") ((Locales.answer? [] (bytes "all") none).map untilNul)

/-- What follows the texts gives the concatenation of the output in place of the function. -/
theorem run_ending (hos : .os ∈ libraries) (htable : .table ∈ libraries) (line : Nat) :
    runStraight (actions (callWithin (n + 1)) frame (ending line)) [4, 3, 2, 1, 0]
        (running base granted (openCells base ++ [.bool true, .nil]) [g, b] functions) =
      .ok ([4, 3, 2, 1, 0],
          .tail (.builtin (.table .concat)) [.table (base.tables.size + 1)])
        (running base (restored granted) (openCells base ++ [.bool true, .nil]) [g, b]
          functions) := by
  let previous? := Locales.answer? [] (bytes "all") none
  let s := running base (restored granted) (openCells base ++ [.bool true, .nil]) [g, b] functions
  have hprevious : evaluate (callWithin (n + 1)) frame [4, 3, 2, 1, 0]
      (setlocale (line + 1) [.localVar 2 (bytes "previous_locale") false])
      (running base granted (openCells base ++ [.bool true, .nil]) [g, b] functions) =
        .ok [valueOf (Locales.answer? granted (bytes "all") (previous?.map untilNul))] s :=
    evaluate_setlocale h hos (evaluate_localVar 2 (bytes "previous_locale") false) (.inr rfl)
  have hfailed : evaluate (callWithin (n + 1)) frame [4, 3, 2, 1, 0]
      (.unary .not (.localVar 1 (bytes "ok") false) (line + 2)) s = .ok [.bool false] s :=
    evaluate_not (evaluate_localVar 1 (bytes "ok") false)
  have hconcat : evaluate (callWithin (n + 1)) frame [4, 3, 2, 1, 0] (.index
      (.global (bytes "table") (line + 3)) (.string (bytes "concat")) (line + 3)) s =
        .ok [.builtin (.table .concat)] s :=
    evaluate_entry h htable (e := ("concat", .builtin (.table .concat))) List.mem_cons_self rfl
  rw [ending, runStraight_next (continues_call hprevious),
    runStraight_next (continues_if_false hfailed rfl)]
  exact runStraight_tailCall rfl hconcat rfl

/-- The function that renders ends with the texts in the table of the output. -/
theorem run_execute (hos : .os ∈ libraries) (htable : .table ∈ libraries)
    (hlimit : contents.length < Number.wholeLimit) :
    ∃ b granted cells functions', b.IsSequence
        (((warnings locale).map encode ++ contents).map .string) ∧
      runStraight (actions (callWithin (n + 2)) frame (execute locale contents).body) [0]
          (running base [] [.table base.tables.size] [g] functions) =
        .ok ([4, 3, 2, 1, 0],
            .tail (.builtin (.table .concat)) [.table (base.tables.size + 1)])
          (running base granted cells [g, b] functions') := by
  obtain ⟨b₁, granted₁, hb₁, hlocale⟩ : ∃ (b : Table) (granted : List (Bytes × Bytes)),
      b.IsSequence (((warnings locale).map encode).map .string) ∧ _ :=
    run_chooseLocale (g := g) (n := n + 1) h functions frame hos
  have hlength : (((warnings locale).map encode).map Value.string).length +
      contents.length ≤ Number.wholeLimit := by
    have := length_warnings_le locale
    rw [List.length_map, List.length_map]
    omega
  obtain ⟨b₂, hb₂, hpcall⟩ : ∃ b : Table, b.IsSequence
      (((warnings locale).map encode).map .string ++ contents.map .string) ∧ _ :=
    continues_pcall (g := g) (n := n) h granted₁ functions frame locale hb₁ hlength
  refine ⟨b₂, restored granted₁, openCells base ++ [.bool true, .nil],
    functions ++ [.lua (texts locale contents) [2, 1, 0]], ?_, ?_⟩
  · rwa [List.map_append]
  · have hbody : (execute locale contents).body =
        .locals 1 [.table []] :: .locals 1 [setlocale 7 []] :: (chooseLocale 8 locale ++
          .locals 2 [pcall (firstLine locale) (texts locale contents)] ::
          ending (lastLine locale contents)) := rfl
    rw [hbody, runStraight_next continues_table, runStraight_next
      (continues_locals (evaluate_previous_locale h hos) (bind_of_ok (newCell_running _)))]
    refine (hlocale _).trans ?_
    rw [runStraight_next hpcall]
    exact run_ending h _ _ frame hos htable _

/-- A call of the function that renders gives the concatenation of the texts. -/
theorem call_execute (sites : Sites) (hos : .os ∈ libraries) (htable : .table ∈ libraries)
    (hlimit : contents.length < Number.wholeLimit) {id : Nat}
    (hclosure : functions[id]? = some (.lua (execute locale contents) [0])) :
    ∃ s, callWithin (n + 3) sites (.function id) []
        (running base [] [.table base.tables.size] [g] functions) =
      .ok [.string (((warnings locale).map encode ++ contents).flatten)] s := by
  obtain ⟨b, granted, cells, functions', hb, hbody⟩ : ∃ (b : Table)
      (granted : List (Bytes × Bytes)) (cells : List Value) (functions' : List Closure),
      b.IsSequence (((warnings locale).map encode ++ contents).map .string) ∧ _ :=
    run_execute (g := g) (n := n) h functions ⟨[], sites⟩ hos htable hlimit
  let s := running base granted cells [g, b] functions'
  have hb' : (s.table (base.tables.size + 1)).IsSequence
      (((warnings locale).map encode ++ contents).map .string) := by
    rw [table_running]
    exact hb
  have hlength : ((warnings locale).map encode ++ contents).length ≤ Number.wholeLimit := by
    have := length_warnings_le locale
    rw [List.length_append, List.length_map]
    omega
  have hfunction : (running base [] [.table base.tables.size] [g] functions).closures[id]? =
      some (.lua (.mk 0 false (execute locale contents).body 5) [0]) := by
    rw [running, List.getElem?_toArray, hclosure]
    rfl
  refine ⟨s, ?_⟩
  rw [callWithin_of_tail hfunction hbody]
  exact runConcat_of_isSequence hb' hlength

end

/-! ## The program -/

section

variable {base : Store} {g : Table} {functions : List Closure} {frame : Frame} {call : Call}

/-- A function becomes a field of the table that the program returns. -/
theorem continues_method (name : String) (line : Nat) (f : Function)
    (hplain : g.metatable? = none) :
    Continues call frame (method name line f) [0]
      (running base [] [.table base.tables.size] [g] functions) [0]
      (running base [] [.table base.tables.size] [g.setText name (.function functions.length)]
        (functions ++ [.lua f [0]])) := by
  let s := running base [] [.table base.tables.size] [g] (functions ++ [.lua f [0]])
  have hplain' : (s.table base.tables.size).metatable? = none := by
    have htable : s.table (base.tables.size + 0) = g := table_running 0
    rw [Nat.add_zero] at htable
    rw [htable]
    exact hplain
  have hvalue : evaluate call frame [0] (.function f)
      (running base [] [.table base.tables.size] [g] functions) = .ok [.function functions.length] s := by
    rw [evaluate]
    exact (bind_of_ok (newClosure_running _)).trans rfl
  refine continues_assign rfl rfl hvalue rfl rfl (setIndex_of_rawSet hplain' ?_)
  exact modifyTable_running 0 (·.setText name (.function functions.length))

theorem trying_of_ok {α : Type} {x : Eval α} {s s' : Store} {a : α} (hx : x s = .ok a s') :
    Execution.trying x s = .ok (.ok a) s' := by
  have hattempt : attempt x s = .ok (.ok a) s' := by
    rw [attempt, hx]
  exact (bind_of_ok hattempt).trans rfl

/-- The table that the program returns. -/
def returned : Table :=
  (Table.empty.setText "execute" (.function 1)).setText "main" (.function 2)

variable [Locales] {libraries : List Library} {n : Nat} {locale : Option Text} {contents : List Bytes}

/-- The functions of the program. -/
def functionsOf (locale : Option Text) (contents : List Bytes) : List Closure :=
  [.lua (tree locale contents) [], .lua (execute locale contents) [0],
    .lua (main (lastLine locale contents + 6)) [0]]

/-- The program returns the table of its functions. -/
theorem call_tree (sites : Sites) :
    callWithin (n + 1) sites (.function 0) [] (running base [] [] [] [.lua (tree locale contents) []]) =
      .ok [.table base.tables.size]
        (running base [] [.table base.tables.size] [returned] (functionsOf locale contents)) := by
  have hbody : (tree locale contents).body = [.locals 1 [.table []],
      method "execute" 5 (execute locale contents),
      method "main" (lastLine locale contents + 6) (main (lastLine locale contents + 6)),
      .ret [.localVar 0 (bytes "GenClass") false]] := rfl
  have hrun : runStraight (actions (callWithin n) ⟨[], sites⟩ (tree locale contents).body) []
      (running base [] [] [] [.lua (tree locale contents) []]) =
        .ok ([0], .done [.table base.tables.size])
          (running base [] [.table base.tables.size] [returned] (functionsOf locale contents)) := by
    rw [hbody]
    refine (runStraight_next continues_table).trans ?_
    refine (runStraight_next (continues_method (g := .empty) _ _ _ rfl)).trans ?_
    refine (runStraight_next (continues_method _ _ _ rfl)).trans ?_
    exact runStraight_ret (evaluate_localVar 0 (bytes "GenClass") false)
  exact callWithin_of_done rfl hrun

/-- The output of the program is the concatenation of the texts, after the warning. -/
theorem outputOf_tree (h : Linked libraries base) (hos : .os ∈ libraries)
    (htable : .table ∈ libraries) (hlimit : contents.length < Number.wholeLimit) :
    ∃ s, Execution.outputOf (tree locale contents) base =
      .ok (.ok (((warnings locale).map encode ++ contents).flatten)) s := by
  let s := running base [] [.table base.tables.size] [returned] (functionsOf locale contents)
  have hmain : (do Execution.call [] (← newClosure (.lua (tree locale contents) [])) [] :
      Eval (List Value)) base = .ok [.table base.tables.size] s := by
    have hnew : newClosure (.lua (tree locale contents) []) (running base [] [] [] []) =
        .ok (.function 0) (running base [] [] [] [.lua (tree locale contents) []]) :=
      newClosure_running _
    rw [running_nil h] at hnew
    rw [bind_of_ok hnew]
    exact call_tree []
  have hindex : Operation.index Execution.call ⟨none, []⟩ (.table base.tables.size)
      (.ofString "execute") none s = .ok (.function 1) s := by
    refine index_of_get ?_ rfl
    have htable : s.table (base.tables.size + 0) = returned := table_running 0
    rw [Nat.add_zero] at htable
    rw [htable]
    rfl
  obtain ⟨s', hexecute⟩ : ∃ s', Execution.call [] (.function 1) [] s =
      .ok [.string (((warnings locale).map encode ++ contents).flatten)] s' :=
    call_execute (n := 7997) h (functionsOf locale contents) [] hos htable hlimit rfl
  refine ⟨s', ?_⟩
  rw [Execution.outputOf, bind_of_ok (trying_of_ok hmain)]
  refine (bind_of_ok (trying_of_ok hindex)).trans ?_
  refine (bind_of_ok (trying_of_ok hexecute)).trans ?_
  rfl

/-- The program of texts is rendered as their concatenation, after the warning. -/
theorem evaluate_tree (h : Linked libraries base) (hos : .os ∈ libraries)
    (htable : .table ∈ libraries) {texts : List Text} (hlimit : texts.length < Number.wholeLimit) :
    ∃ s, Execution.evaluate (tree locale (texts.map encode)) base =
      .ok (.rendered (warnings locale ++ texts).flatten) s := by
  obtain ⟨s, houtput⟩ : ∃ s, Execution.outputOf (tree locale (texts.map encode)) base = _ :=
    outputOf_tree h hos htable (by rwa [List.length_map])
  have hflatten : ((warnings locale).map encode ++ texts.map encode).flatten =
      encode (warnings locale ++ texts).flatten := by
    rw [← List.map_append, encode_flatten]
  refine ⟨s, ?_⟩
  rw [Execution.evaluate, bind_of_ok houtput, hflatten]
  show EStateM.Result.ok (Execution.rendered (decodeLossy _)) s = _
  rw [decodeLossy_encode]

end

end Stencil.Literal
