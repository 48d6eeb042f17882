import WidgetBuilders.Factory
import WidgetBuilders.Proofs.EmittedFunctions
import WidgetBuilders.Proofs.InertText

/-!
# Lines at the depth of their braces

A text is well nested if every line stands where its braces put it: behind one level of indentation
for each brace that is open before it, or one level less if the line closes a brace first. Braces
are counted wherever they stand, within a line too, and by nothing but counting.

Generated text is made in three unrelated ways, and none of them counts braces. What they have in
common is told by a relation that builds lines up one by one: a line that opens some braces puts
those after it deeper, and a closing brace has a line to itself. The relation starts and ends at a
depth, so that it can be put together piece by piece, and it implies that the lines are well nested.
Factory objects and functions are such pieces, if their names move no brace; each of them starts and
ends at no depth, and so may be followed by any other.
-/

namespace WidgetBuilders

namespace Text

/-- Opening braces less closing ones. -/
def braces (text : List Char) : Int :=
  (text.count '\x7b' : Int) - text.count '\x7d'

/-- The depth of a line that comes after some others: the braces that are open before it, without
the one that it closes first. -/
def depthOf (before : List (List Char)) (line : List Char) : Int :=
  braces before.flatten - if (trimFront line).head? = some '\x7d' then 1 else 0

/-- The line stands at this depth: it is indented as often, and goes on with something that is not
blank. At no depth, it may be empty. -/
structure PlacedAt (indent : String) (depth : Int) (line : List Char) : Prop where
  nonnegative : 0 ≤ depth
  shape : line = [] ∧ depth = 0 ∨
    ∃ c rest, isBlank c = false ∧ line = (repeated depth.toNat indent).toList ++ c :: rest

/-- Every line of the text stands at its depth, and in the end no brace is open. -/
structure WellNested (indent text : String) : Prop where
  placed : ∀ front line back, partsAt '\n' text.toList = front ++ line :: back →
    PlacedAt indent (depthOf front line) line
  balanced : braces text.toList = 0

/-! ## Counting -/

/-- Braces of two texts add up. -/
theorem braces_append (front back : List Char) :
    braces (front ++ back) = braces front + braces back := by
  simp only [braces, List.count_append]
  omega

/-- Inert text has no braces to count. -/
theorem braces_of_inert {text : List Char} (inert : Inert text) : braces text = 0 := by
  have opening : '\x7b' ∉ text := fun member => absurd (inert _ member) (by decide)
  have closing : '\x7d' ∉ text := fun member => absurd (inert _ member) (by decide)
  simp [braces, List.count_eq_zero_of_not_mem opening, List.count_eq_zero_of_not_mem closing]

/-- One line more before it moves a line by the braces of that line. -/
theorem depthOf_cons (first : List Char) (before : List (List Char)) (line : List Char) :
    depthOf (first :: before) line = braces first + depthOf before line := by
  simp only [depthOf, List.flatten_cons, braces_append]
  omega

/-! ## Margins -/

/-- Repeating a text brings no new characters. -/
theorem mem_repeated {count : Nat} {text : String} {c : Char}
    (member : c ∈ (repeated count text).toList) : c ∈ text.toList := by
  induction count with
  | zero => simp [repeated, concat] at member
  | succ count ih =>
    simp only [repeated, List.replicate_succ, concat, String.toList_append,
      List.mem_append] at member
    rcases member with here | later
    · exact here
    · exact ih later

/-- Past a blank margin, a line begins with the first character that is not blank. -/
theorem trimFront_append {front : List Char} (blank : Blank front) {c : Char}
    (unblank : isBlank c = false) (rest : List Char) :
    trimFront (front ++ c :: rest) = c :: rest := by
  rw [trimFront, List.dropWhile_append_of_pos blank, List.dropWhile_cons_of_neg (by simp [unblank])]

end Text

open Text

/-! ## Nested lines -/

/-- The text begins with a character that is neither blank nor a closing brace. -/
def beginsLine : List Char → Bool
  | [] => false
  | c :: _ => !isBlank c && c ≠ '\x7d'

/-- A line without its margin that opens some braces more than it closes. -/
structure LineBody (body : String) (opened : Nat) : Prop where
  begins : beginsLine body.toList = true
  single : '\n' ∉ body.toList
  opens : braces body.toList = opened

/-- Lines of which the first one starts at one depth and after which another depth is left. -/
inductive Nested (indent : String) : Nat → List String → Nat → Prop
  | done (depth : Nat) : Nested indent depth [] depth
  | empty {rest : List String} {final : Nat} (others : Nested indent 0 rest final) :
      Nested indent 0 ("" :: rest) final
  | line {depth opened : Nat} {body : String} {rest : List String} {final : Nat}
      (line : LineBody body opened) (others : Nested indent (depth + opened) rest final) :
      Nested indent depth ((repeated depth indent ++ body) :: rest) final
  | closing {depth : Nat} {rest : List String} {final : Nat}
      (others : Nested indent depth rest final) :
      Nested indent (depth + 1) ((repeated depth indent ++ "\x7d") :: rest) final

namespace Nested

variable {indent : String}

/-- Nested lines may follow where others have stopped. -/
theorem append {start middle final : Nat} {front back : List String}
    (first : Nested indent start front middle) (second : Nested indent middle back final) :
    Nested indent start (front ++ back) final := by
  induction first with
  | done depth => exact second
  | empty others ih => exact .empty (ih second)
  | line body others ih => exact .line body (ih second)
  | closing others ih => exact .closing (ih second)

/-- Lines that open nothing stay at their depth. -/
theorem level {bodies : List String} (flat : ∀ body ∈ bodies, LineBody body 0) (depth : Nat) :
    Nested indent depth (bodies.map (repeated depth indent ++ ·)) depth := by
  induction bodies with
  | nil => exact .done depth
  | cons body rest ih =>
    obtain ⟨first, later⟩ := List.forall_mem_cons.mp flat
    exact .line first (ih later)

variable (blank : Blank indent.toList) (inert : Inert indent.toList)

include blank in
/-- A margin of blank indentations is blank. -/
theorem blank_margin (depth : Nat) : Blank (repeated depth indent).toList :=
  fun c member => blank c (mem_repeated member)

include inert in
/-- A margin of inert indentations is inert. -/
theorem inert_margin (depth : Nat) : Inert (repeated depth indent).toList :=
  fun c member => inert c (mem_repeated member)

include inert in
/-- Each line is one line. -/
theorem single {start final : Nat} {lines : List String}
    (nested : Nested indent start lines final) : ∀ line ∈ lines, '\n' ∉ line.toList := by
  induction nested with
  | done depth => simp
  | empty others ih => exact List.forall_mem_cons.mpr ⟨by simp, ih⟩
  | @line depth _ _ _ _ body others ih =>
    have margin := feed_not_mem_of_inert (inert_margin inert depth)
    exact List.forall_mem_cons.mpr ⟨by simp [margin, body.single], ih⟩
  | @closing depth _ _ others ih =>
    have margin := feed_not_mem_of_inert (inert_margin inert depth)
    exact List.forall_mem_cons.mpr ⟨by simp [margin], ih⟩

include inert in
/-- With its margin, a line opens as many braces as without it. -/
theorem braces_line {body : String} {opened : Nat} (line : LineBody body opened) (depth : Nat) :
    braces (repeated depth indent ++ body).toList = opened := by
  rw [String.toList_append, braces_append, braces_of_inert (inert_margin inert depth), line.opens]
  omega

include inert in
/-- A closing line closes one brace. -/
theorem braces_closing (depth : Nat) : braces (repeated depth indent ++ "\x7d").toList = -1 := by
  rw [String.toList_append, braces_append, braces_of_inert (inert_margin inert depth)]
  decide

include inert in
/-- The braces that are opened on the way are the difference of the depths. -/
theorem braces_flatten {start final : Nat} {lines : List String}
    (nested : Nested indent start lines final) :
    start + braces (lines.map String.toList).flatten = final := by
  induction nested with
  | done depth => simp [braces]
  | empty others ih => simpa using ih
  | @line depth opened body rest final line others ih =>
    rw [List.map_cons, List.flatten_cons, braces_append, braces_line inert line]
    omega
  | @closing depth rest final others ih =>
    rw [List.map_cons, List.flatten_cons, braces_append, braces_closing inert]
    omega

include blank in
/-- A line with a margin stands at its depth, if a brace that it closes was still counted. -/
theorem placedAt_margin {start depth : Nat} {body : String} {c : Char} {rest : List Char}
    (shape : body.toList = c :: rest) (unblank : isBlank c = false)
    (counted : start = depth + if c = '\x7d' then 1 else 0) :
    PlacedAt indent (start + depthOf [] (repeated depth indent ++ body).toList)
      (repeated depth indent ++ body).toList := by
  have text : (repeated depth indent ++ body).toList =
      (repeated depth indent).toList ++ c :: rest := by
    rw [String.toList_append, shape]
  have depthEq : start + depthOf [] (repeated depth indent ++ body).toList = depth := by
    rw [text, depthOf, trimFront_append (blank_margin blank depth) unblank, counted]
    have nothing : braces ([] : List (List Char)).flatten = 0 := by decide
    rw [nothing]
    by_cases closes : c = '\x7d'
    · simp only [closes, List.head?_cons, if_true]
      omega
    · simp only [closes, List.head?_cons, Option.some.injEq, if_false]
      omega
  rw [depthEq]
  exact ⟨Int.natCast_nonneg depth, Or.inr ⟨c, rest, unblank, by rw [text, Int.toNat_natCast]⟩⟩

/-- A line after the first one is placed by what the first one leaves. -/
theorem placedAt_later {start left : Nat} {first line : String} {front : List String}
    (sum : start + braces first.toList = left)
    (placed : PlacedAt indent (left + depthOf (front.map String.toList) line.toList) line.toList) :
    PlacedAt indent (start + depthOf ((first :: front).map String.toList) line.toList)
      line.toList := by
  rw [List.map_cons, depthOf_cons, ← Int.add_assoc, sum]
  exact placed

include blank inert in
/-- Each line stands at its depth: counting gives the depth that the line was put at. -/
theorem placed {start final : Nat} {lines : List String}
    (nested : Nested indent start lines final) {front back : List String} {line : String}
    (cut : lines = front ++ line :: back) :
    PlacedAt indent (start + depthOf (front.map String.toList) line.toList) line.toList := by
  -- A first line is placed by its own step. For a later one, the count over the first line is what
  -- the depth has changed by, and the others are nested from there.
  induction nested generalizing front with
  | done depth => simp at cut
  | empty others ih =>
    cases front with
    | nil =>
      obtain ⟨rfl, _⟩ := List.cons.inj cut
      exact ⟨by decide, Or.inl (by decide)⟩
    | cons first front =>
      obtain ⟨rfl, later⟩ := List.cons.inj cut
      exact placedAt_later (by decide) (ih later)
  | @line depth opened body rest final line others ih =>
    cases front with
    | nil =>
      obtain ⟨rfl, _⟩ := List.cons.inj cut
      have begins := line.begins
      cases shape : body.toList with
      | nil =>
        rw [shape] at begins
        cases begins
      | cons c others =>
        rw [shape] at begins
        simp only [beginsLine, Bool.and_eq_true, Bool.not_eq_true', decide_eq_true_eq] at begins
        exact placedAt_margin blank shape begins.1 (by simp [begins.2])
    | cons first front =>
      obtain ⟨rfl, later⟩ := List.cons.inj cut
      refine placedAt_later ?_ (ih later)
      rw [braces_line inert line]
      omega
  | @closing depth rest final others ih =>
    cases front with
    | nil =>
      obtain ⟨rfl, _⟩ := List.cons.inj cut
      have brace : "\x7d".toList = ['\x7d'] := by decide
      exact placedAt_margin blank brace (by decide) (by simp)
    | cons first front =>
      obtain ⟨rfl, later⟩ := List.cons.inj cut
      refine placedAt_later ?_ (ih later)
      rw [braces_closing inert]
      omega

end Nested

/-! ## Texts of nested lines -/

/-- The text consists of nested lines that start and end at no depth. -/
def Stands (indent text : String) : Prop :=
  ∃ lines, text = concat (lines.map (· ++ "\n")) ∧ Nested indent 0 lines 0

namespace Stands

variable {indent : String}

/-- The empty text. -/
theorem nothing : Stands indent "" :=
  ⟨[], rfl, .done 0⟩

/-- An empty line. -/
theorem emptyLine : Stands indent "\n" :=
  ⟨[""], by simp [concat], .empty (.done 0)⟩

/-- One text after another. -/
theorem append {front back : String} (first : Stands indent front) (second : Stands indent back) :
    Stands indent (front ++ back) := by
  obtain ⟨frontLines, rfl, frontNested⟩ := first
  obtain ⟨backLines, rfl, backNested⟩ := second
  exact ⟨frontLines ++ backLines, by rw [List.map_append, concat_append],
    frontNested.append backNested⟩

/-- Any number of texts, one after another. -/
theorem concat_of_all {texts : List String} (each : ∀ text ∈ texts, Stands indent text) :
    Stands indent (concat texts) := by
  induction texts with
  | nil => exact nothing
  | cons text rest ih =>
    obtain ⟨first, later⟩ := List.forall_mem_cons.mp each
    exact first.append (ih later)

/-- Lines without a margin that open nothing, and empty ones. -/
theorem concat_lines {lines : List String} (flat : ∀ line ∈ lines, line = "" ∨ LineBody line 0) :
    Stands indent (concat (lines.map (· ++ "\n"))) := by
  apply concat_of_all
  rw [List.forall_mem_map]
  intro line member
  rcases flat line member with rfl | body
  · exact emptyLine
  · exact ⟨[repeated 0 indent ++ line], by simp [concat, repeated], .line body (.done 0)⟩

/-- Cut at the line feeds, joined lines are found again, with an empty one at the end. -/
theorem partsAt_concat {lines : List String} (single : ∀ line ∈ lines, '\n' ∉ line.toList) :
    partsAt '\n' (concat (lines.map (· ++ "\n"))).toList =
      (lines ++ [""]).map String.toList := by
  induction lines with
  | nil => rfl
  | cons line rest ih =>
    obtain ⟨first, later⟩ := List.forall_mem_cons.mp single
    have text : (concat ((line :: rest).map (· ++ "\n"))).toList =
        line.toList ++ '\n' :: (concat (rest.map (· ++ "\n"))).toList := by
      simp [concat]
    rw [text, partsAt_append first, ih later]
    rfl

/-- The line feeds between lines are no braces. -/
theorem braces_concat (lines : List String) :
    braces (concat (lines.map (· ++ "\n"))).toList =
      braces (lines.map String.toList).flatten := by
  induction lines with
  | nil => rfl
  | cons line rest ih =>
    have feed : braces "\n".toList = 0 := by decide
    simp only [List.map_cons, concat, String.toList_append, List.flatten_cons, braces_append, ih,
      feed]
    omega

/-- Such a text is well nested, and so is the empty line after its last line feed. -/
theorem wellNested {text : String} (stands : Stands indent text) (blank : Blank indent.toList)
    (inert : Inert indent.toList) : WellNested indent text := by
  obtain ⟨lines, rfl, nested⟩ := stands
  constructor
  case placed =>
    intro front line back cut
    rw [partsAt_concat (nested.single inert), List.map_eq_append_iff] at cut
    obtain ⟨frontLines, rest, cutLines, rfl, atLine⟩ := cut
    obtain ⟨own, backLines, rfl, rfl, rfl⟩ := List.map_eq_cons_iff.mp atLine
    have ended : Nested indent 0 (lines ++ [""]) 0 := nested.append (.empty (.done 0))
    simpa using ended.placed blank inert cutLines
  case balanced =>
    rw [braces_concat]
    simpa using nested.braces_flatten inert

end Stands

/-! ## Functions and factory objects -/

/-- How a line begins is settled by its first character. -/
theorem beginsLine_append {front : List Char} (begins : beginsLine front = true)
    (back : List Char) : beginsLine (front ++ back) = true := by
  cases front with
  | nil => cases begins
  | cons c rest => exact begins

/-- A line is inert up to its first brace. -/
theorem LineBody.append {front back : String} {opened : Nat}
    (begins : beginsLine front.toList = true) (inert : Inert front.toList)
    (single : '\n' ∉ back.toList) (opens : braces back.toList = opened) :
    LineBody (front ++ back) opened := by
  constructor
  case begins =>
    rw [String.toList_append]
    exact beginsLine_append begins _
  case single => simp [feed_not_mem_of_inert inert, single]
  case opens =>
    rw [String.toList_append, braces_append, braces_of_inert inert, opens]
    omega

/-- An inert line opens nothing. -/
theorem LineBody.of_inert {body : String} (begins : beginsLine body.toList = true)
    (inert : Inert body.toList) : LineBody body 0 :=
  ⟨begins, feed_not_mem_of_inert inert, braces_of_inert inert⟩

/-- No name in the body moves a brace, and each statement is a line of its own. -/
def FunctionBody.IsInert : FunctionBody → Prop
  | .delegates arguments => Inert arguments.toList
  | .initializes factory theme => Inert factory.toList ∧ Inert theme.toList
  | .constructs factory statements =>
    Inert factory.toList ∧
      ∀ statement ∈ statements, Inert statement.toList ∧ beginsLine statement.toList = true

namespace EmittedFunction

/-- No name in the function moves a brace. -/
structure IsInert (function : EmittedFunction) : Prop where
  receiver : Inert function.receiver.toList
  name : Inert function.name.toList
  parameters : Inert function.parameters.toList
  returnType : Inert function.returnType.toList
  body : function.body.IsInert

/-- The lines of a function that is not indented. -/
def lines (indent : String) (function : EmittedFunction) : List String :=
  let margin (depth : Nat) : String := repeated depth indent
  match function.body with
  | .delegates arguments =>
    [margin 0 ++ (function.header ++ " = " ++ function.name ++ "(" ++ arguments ++ ") "
      ++ "\x7b\x7d")]
  | .initializes factory theme =>
    [ margin 0 ++ (function.header ++ " \x7b"),
      margin 1 ++ ("return ankoView(" ++ factory ++ ", " ++ theme ++ ") " ++ "\x7b init() \x7d"),
      margin 0 ++ "\x7d" ]
  | .constructs factory statements =>
    [ margin 0 ++ (function.header ++ " \x7b"),
      margin 1 ++ ("return ankoView(" ++ factory ++ ", theme) " ++ "\x7b")]
      ++ statements.map (margin 2 ++ ·) ++ [margin 1 ++ "\x7d", margin 0 ++ "\x7d"]

/-- A function is written line by line. -/
theorem written_eq (indent : String) (function : EmittedFunction) :
    function.written indent 0 = concat ((function.lines indent).map (· ++ "\n")) := by
  apply String.toList_injective
  unfold written lines
  cases function.body with
  | delegates arguments => simp [concat]
  | initializes factory theme => simp [concat]
  | constructs factory statements => simp [concat, concat_append, Function.comp_def]

variable {function : EmittedFunction} (inert : function.IsInert)

include inert in
/-- The header is made of the names of the function and fixed words. -/
theorem IsInert.header : Inert function.header.toList := by
  simp only [toList_header, inert_append]
  exact ⟨⟨⟨⟨⟨⟨⟨by decide, inert.receiver⟩, by decide⟩, inert.name⟩, by decide⟩,
    inert.parameters⟩, by decide⟩, inert.returnType⟩

/-- The header begins with a fixed word. -/
theorem beginsLine_header (function : EmittedFunction) :
    beginsLine function.header.toList = true := by
  simp only [toList_header, List.append_assoc]
  exact beginsLine_append (by decide) _

include inert in
/-- A function stands where no brace is open: it closes what it opens. -/
theorem stands (indent : String) : Stands indent (function.written indent 0) := by
  -- The body tells which of the three shapes the lines have.
  refine ⟨function.lines indent, function.written_eq indent, ?_⟩
  have opening : LineBody (function.header ++ " \x7b") 1 :=
    .append function.beginsLine_header inert.header (by decide) (by decide)
  have body := inert.body
  unfold lines
  cases shape : function.body with
  | delegates arguments =>
    rw [shape] at body
    have only : LineBody (function.header ++ " = " ++ function.name ++ "(" ++ arguments ++ ") "
        ++ "\x7b\x7d") 0 := by
      refine .append ?_ ?_ (by decide) (by decide)
      · simp only [String.toList_append, List.append_assoc]
        exact beginsLine_append function.beginsLine_header _
      · simp only [String.toList_append, inert_append]
        exact ⟨⟨⟨⟨⟨inert.header, by decide⟩, inert.name⟩, by decide⟩, body⟩, by decide⟩
    exact .line only (.done 0)
  | initializes factory theme =>
    rw [shape] at body
    have inner : LineBody ("return ankoView(" ++ factory ++ ", " ++ theme ++ ") "
        ++ "\x7b init() \x7d") 0 := by
      refine .append ?_ ?_ (by decide) (by decide)
      · simp only [String.toList_append, List.append_assoc]
        exact beginsLine_append (by decide) _
      · simp only [String.toList_append, inert_append]
        exact ⟨⟨⟨⟨by decide, body.1⟩, by decide⟩, body.2⟩, by decide⟩
    exact .line opening (.line inner (.closing (.done 0)))
  | constructs factory statements =>
    rw [shape] at body
    have flat : ∀ statement ∈ statements, LineBody statement 0 :=
      fun statement member => .of_inert (body.2 statement member).2 (body.2 statement member).1
    have inner : LineBody ("return ankoView(" ++ factory ++ ", theme) " ++ "\x7b") 1 := by
      refine .append ?_ ?_ (by decide) (by decide)
      · simp only [String.toList_append, List.append_assoc]
        exact beginsLine_append (by decide) _
      · simp only [String.toList_append, inert_append]
        exact ⟨⟨by decide, body.1⟩, by decide⟩
    have closing : Nested indent 2 [repeated 1 indent ++ "\x7d", repeated 0 indent ++ "\x7d"] 0 :=
      .closing (.closing (.done 0))
    exact .line opening (.line inner ((Nested.level flat 2).append closing))

end EmittedFunction

/-- Functions stand where no brace is open, with an empty line after each paragraph. -/
theorem Functions.stands {functions : Functions}
    (inert : ∀ function ∈ functions.emitted, function.IsInert) (indent : String) :
    Stands indent (functions.written indent 0) := by
  apply Stands.concat_of_all
  rw [List.forall_mem_map]
  intro paragraph member
  refine Stands.append (Stands.concat_of_all ?_) Stands.emptyLine
  rw [List.forall_mem_map]
  intro function among
  exact EmittedFunction.stands
    (inert function (List.mem_flatten.mpr ⟨paragraph, member, among⟩)) indent

/-- The line that declares a factory property, without its margin. -/
def FactoryEntry.line (entry : FactoryEntry) : String :=
  "val " ++ entry.key ++ " = " ++ ("\x7b ctx: Context -> " ++ entry.expression ++ " \x7d")

/-- The line of a property closes the brace that it opens, whatever its key and expression are. -/
theorem FactoryEntry.lineBody {entry : FactoryEntry} (key : Inert entry.key.toList)
    (expression : Inert entry.expression.toList) : LineBody entry.line 0 := by
  have opening : braces "\x7b ctx: Context -> ".toList = 1 := by decide
  have closing : braces " \x7d".toList = -1 := by decide
  refine .append ?_ ?_ ?_ ?_
  · simp only [String.toList_append, List.append_assoc]
    exact beginsLine_append (by decide) _
  · simp only [String.toList_append, inert_append]
    exact ⟨⟨by decide, key⟩, by decide⟩
  · simp [feed_not_mem_of_inert expression]
  · simp only [String.toList_append, braces_append, braces_of_inert expression, opening, closing]
    decide

/-- A factory object stands where no brace is open, with an empty line after it. -/
theorem Factory.stands {factory : Factory} (name : Inert factory.name.toList)
    (entries : ∀ entry ∈ factory.entries, Inert entry.key.toList ∧ Inert entry.expression.toList)
    (indent : String) : Stands indent (factory.declaration indent) := by
  unfold declaration
  split
  · exact Stands.nothing
  · have opening : LineBody ("object " ++ factory.name ++ " \x7b") 1 := by
      refine .append ?_ ?_ (by decide) (by decide)
      · simp only [String.toList_append]
        exact beginsLine_append (by decide) _
      · simp only [String.toList_append, inert_append]
        exact ⟨by decide, name⟩
    have flat : ∀ body ∈ factory.entries.map FactoryEntry.line, LineBody body 0 := by
      rw [List.forall_mem_map]
      exact fun entry member => entry.lineBody (entries entry member).1 (entries entry member).2
    have closing : Nested indent 1 [repeated 0 indent ++ "\x7d", ""] 0 :=
      .closing (.empty (.done 0))
    have entryText (entry : FactoryEntry) : indent ++ "val " ++ entry.key
        ++ " = \x7b ctx: Context -> " ++ entry.expression ++ " \x7d\n" =
          repeated 1 indent ++ entry.line ++ "\n" := by
      apply String.toList_injective
      simp [FactoryEntry.line, repeated, concat]
    refine ⟨_, ?_, .line opening ((Nested.level flat 1).append closing)⟩
    simp only [entryText]
    apply String.toList_injective
    simp [concat, concat_append, repeated, Function.comp_def]

end WidgetBuilders
