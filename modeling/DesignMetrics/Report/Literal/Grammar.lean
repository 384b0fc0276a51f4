import DesignMetrics.Report.Literal.Rule
import DesignMetrics.Text.Shape

/-!
# The grammar of expressions

The phrases that expressions are made of, and how each is read. Suspicions are phrases that no one
should write; reading one brings out a fault that says what may have been meant.
-/

namespace DesignMetrics.Report.Literal

/-- What expressions are made of. -/
inductive Phrase where
  | whole | inField
  | expressions | expression | plainExpression
  | yieldExpression | starExpressions | starExpression | elements | element
  | assignment | namedExpression
  | disjunction | conjunction | inversion | comparison | comparisonPair
  | bitOr | bitXor | bitAnd | shift | sum | term | factor | power | awaited | primary
  | atom | texts | tuple | group | generator | set | setRepetition | dict | dictRepetition
  | entries | entry | keyValue | clauses | clause
  | arguments | someArguments | namedArguments | starred | namedOrStarred | namedOrDoubleStarred
  | targets | target | targetNoStar | targetAtom | targetTuple | targetPrimary | targetGoesOn
  | function | parameters | allParameters | slashParameters | slashWithValues | starParameters
  | doubleStarParameter | parameterAlone | parameterWithValue | parameterMaybeValue | parameter
  | value
  | suspectExpression | suspectCommand | suspectNaming | suspectGroup | suspectRepetition
  | suspectDictRepetition | suspectEntries | suspectKeyValue | suspectTarget | suspectArguments
  | suspectNamed | suspectValue | suspectParameters | valuesBefore | suspectStar
  | suspectDoubleStar
deriving DecidableEq, Repr

namespace Phrase

/-! ## Putting parts together -/

def gives (e : Expr) : Build := fun _ _ => .ok (.part (.expr e))

/-- A fault at the last token that has been looked at. -/
def blames (f : Fault) : Build := fun _ _ => .ok (.fault f none)

/-- A fault at a part. -/
def blamesAt (i : Nat) (f : Fault) : Build := fun context _ => .ok (.fault f context.places[i]?)

/-- A fault at the end of what stands before a part. -/
def blamesBefore (i : Nat) (f : Fault) : Build := fun context _ =>
  .ok (.fault f (context.places[i]?.map (· - 1)))

/-- The part at a place. -/
def pick (i : Nat) : Build := fun _ ps => .ok (.part (ps.getD i .nothing))

/-- An expression made of the one at a place. -/
def wrap (i : Nat) (f : Expr → Expr) : Build := fun _ ps =>
  match (ps.getD i .nothing).expr? with
  | some e => .ok (.part (.expr (f e)))
  | none => .ok .refused

/-- An expression made of the first one and the third one. -/
def join (f : Expr → Expr → Expr) : Build := fun _ ps =>
  match ps with
  | [.expr l, _, .expr r] => .ok (.part (.expr (f l r)))
  | _ => .ok .refused

/-- A fault that the expression at a place brings out, if it does. -/
def blamesExpr (i : Nat) (f : Expr → Option Fault) : Build := fun context ps =>
  match (ps.getD i .nothing).expr?.bind f with
  | some found => .ok (.fault found context.places[i]?)
  | none => .ok .refused

/-- A list of the part at one place and of those in the list at another. -/
def prepend (i j : Nat) : Build := fun _ ps =>
  .ok (.part (.list (ps.getD i .nothing :: (ps.getD j .nothing).parts)))

/-- A list of the parts of the lists at two places. -/
def append (i j : Nat) : Build := fun _ ps =>
  .ok (.part (.list ((ps.getD i .nothing).parts ++ (ps.getD j .nothing).parts)))

/-- An expression made of those in the list at a place. -/
def collect (i : Nat) (f : List Expr → Expr) : Build := fun _ ps =>
  .ok (.part (.expr (f (ps.getD i .nothing).exprs)))

def argument (g : Giving) : Build := fun context _ =>
  .ok (.part (.argument ⟨g, context.places.headD 0⟩))

/-- A tuple of the first expression and those in the list after it. -/
def tupled : Build := fun _ ps =>
  match ps with
  | .expr e :: p :: _ => .ok (.part (.expr (.tuple (e :: p.exprs))))
  | _ => .ok .refused

/-- The name that a word is. -/
def nameOf (w : String) : String := String.ofList (w.toList.map Text.plainShape)

def named : Build := fun _ ps =>
  match ps with
  | .token (.word w) :: _ => .ok (.part (.expr (.name (nameOf w))))
  | _ => .ok .refused

def numbered : Build := fun _ ps =>
  match ps with
  | .token (.number imaginary) :: _ => .ok (.part (.expr (.number imaginary)))
  | _ => .ok .refused

/-- A comparison of the first expression with those that the pairs after it hold. -/
def compared : Build := fun _ ps =>
  match ps with
  | .expr e :: p :: _ =>
    let isIn := match p.parts with | .token _ :: _ => true | _ => false
    .ok (.part (.expr (.comparison e isIn)))
  | _ => .ok .refused

/-- A call of the first expression. -/
def called : Build := fun _ ps =>
  match ps with
  | .expr e :: _ :: .nothing :: _ => .ok (.part (.expr (.call e.name?)))
  | _ => .ok (.part (.expr (.call none)))

/-- The texts in the list of parts, joined. -/
def joinedTexts : Build := fun context ps =>
  match context.joined ((ps.headD .nothing).parts.filterMap Part.text?) with
  | .ok kind => .ok (.part (.expr (.text kind)))
  | .error (.own f) => .ok (.fault f none)
  | .error (.inField h) => .error h

/-- Two expressions side by side between brackets, of which the first is no command. -/
def comma : Build := fun context ps =>
  let isCommand := ((ps.getD 1 .nothing).expr?.bind Expr.name?).any commands.contains
  .ok (if isCommand || context.depth = 0 then .refused
    else .fault .missingComma context.places[1]?)

/-- A command with arguments that stand without brackets. -/
def command : Build := fun context ps =>
  match ps with
  | .token (.word w) :: _ =>
    .ok (if commands.contains (nameOf w) then .fault (.bareCall (nameOf w)) context.places[0]?
      else .refused)
  | _ => .ok .refused

/-- A constant that gets a value as if it were a name. -/
def constantNamed : Build := fun context ps =>
  match ps with
  | .token (.word w) :: _ => .ok (.fault (.unassignable w) context.places[0]?)
  | _ => .ok .refused

/-- A repetition as the last of several arguments. -/
def lateRepetition : Build := fun _ ps =>
  let found := (ps.headD .nothing).arguments.filter fun a =>
    a.giving = .plain || a.giving = .unpacked
  .ok (if found.length ≤ 1 then .refused
    else .fault .bareRepetition (found.getLast?.map (·.place)))

/-- An argument without a name after others. -/
def lateArgument : Build := fun _ ps =>
  let isUnpacked := (ps.headD .nothing).arguments.any (·.giving = .namedUnpacked)
  .ok (.fault (.lateArgument isUnpacked) none)

/-! ## Alternatives -/

/-- A way to read a phrase. -/
def way (is : List (Item Phrase)) (build : Build) : Alternative Phrase := .mk false is build

/-- A phrase that is read as another one. -/
def same (p : Phrase) : Alternative Phrase := way [p] (pick 0)

/-- A suspicion. -/
def suspect (p : Phrase) : Alternative Phrase := .mk true [p] (pick 0)

/-- One of some signs. -/
def anyOf (signs : List String) : Item Phrase :=
  .group (signs.map fun (s : String) => way [.sign s] (pick 0))

/-- An expression that gets no name, or gets one. -/
def maybeNamed : Item Phrase :=
  .group [same assignment, way [expression, .notAhead ":="] (pick 0)]

/-- Operators between two phrases, the first of which is the phrase itself. -/
def between (left right : Phrase) (signs : List String) (build : Build) :
    List (Alternative Phrase) :=
  signs.map fun (s : String) => way [.rule left, .sign s, .rule right] build

/-- Phrases with a sign between them. -/
def chain (part : Phrase) (sign : String) : List (Alternative Phrase) :=
  [way [.rule part, .many true (.group [way [.sign sign, .rule part] (pick 1)])] (gives .logical),
    same part]

/-- The ways to read an expression that needs no suspicion. -/
def plainWays : List (Alternative Phrase) :=
  [way [disjunction, "if", disjunction, "else", expression] (gives .conditional),
    same disjunction, same function]

/-- What follows `for` in a clause. -/
def clauseItems : List (Item Phrase) :=
  ["for", targets, "in", .cut, disjunction,
    .many false (.group [way ["if", disjunction] (pick 1)])]

/-- Either of two ways to read parameters, with a slash at their end. -/
def slashed (is : List (Item Phrase)) : List (Alternative Phrase) :=
  [way (is ++ [.sign "/", .sign ","]) (pick 0), way (is ++ [.sign "/", .ahead ":"]) (pick 0)]

/-- A parameter and what ends it. -/
def ended (is : List (Item Phrase)) : List (Alternative Phrase) :=
  [way (is ++ [.sign ","]) (pick 0), way (is ++ [.ahead ":"]) (pick 0)]

/-- The ways to read a phrase, in the order in which they are tried. -/
def ways : Phrase → List (Alternative Phrase)
  | .whole => [way [expressions, .many false .lineEnd, .finish] (pick 0)]
  | .inField => [same starExpressions]
  -- lists of expressions
  | .expressions => [
      way [expression, .many true (.group [way [",", expression] (pick 1)]), .optional ","] tupled,
      way [expression, ","] tupled,
      same expression]
  | .expression => [suspect suspectExpression, suspect suspectCommand] ++ plainWays
  | .plainExpression => plainWays
  | .yieldExpression => [
      way ["yield", "from", expression] (gives .yielded),
      way ["yield", .optional starExpressions] (gives .yielded)]
  | .starExpressions => [
      way [starExpression, .many true (.group [way [",", starExpression] (pick 1)]), .optional ","]
        tupled,
      way [starExpression, ","] tupled,
      same starExpression]
  | .starExpression => [way ["*", bitOr] (wrap 1 .starred), same expression]
  | .elements => [way [.separated element, .optional ","] (pick 0)]
  | .element => [way ["*", bitOr] (wrap 1 .starred), same namedExpression]
  | .assignment => [way [.name, ":=", .cut, expression] (gives .named)]
  | .namedExpression => [
      same assignment, suspect suspectNaming, way [expression, .notAhead ":="] (pick 0)]
  -- operators
  | .disjunction => chain conjunction "or"
  | .conjunction => chain inversion "and"
  | .inversion => [way ["not", inversion] (gives .logical), same comparison]
  | .comparison => [way [bitOr, .many true comparisonPair] compared, same bitOr]
  | .comparisonPair =>
    (["==", "!=", "<=", "<", ">=", ">"].map fun (s : String) =>
      way [.group [way [.sign s, .rule bitOr] (gives .operation)]] (pick 0)) ++
    [way [.group [way ["not", "in", bitOr] (gives .operation)]] (pick 0),
      way [.group [way ["in", bitOr] (pick 0)]] (pick 0),
      way [.group [way ["is", "not", bitOr] (gives .operation)]] (pick 0),
      way [.group [way ["is", bitOr] (gives .operation)]] (pick 0)]
  | .bitOr => between bitOr bitXor ["|"] (gives .operation) ++ [same bitXor]
  | .bitXor => between bitXor bitAnd ["^"] (gives .operation) ++ [same bitAnd]
  | .bitAnd => between bitAnd shift ["&"] (gives .operation) ++ [same shift]
  | .shift => between shift sum ["<<", ">>"] (gives .operation) ++ [same sum]
  | .sum => between sum term ["+", "-"] (join .sum) ++ [same term]
  | .term => between term factor ["*", "/", "//", "%", "@"] (gives .operation) ++ [same factor]
  | .factor => [
      way ["+", factor] (wrap 1 .signed), way ["-", factor] (wrap 1 .signed),
      way ["~", factor] (gives .operation), same power]
  | .power => [way [awaited, "**", factor] (gives .operation), same awaited]
  | .awaited => [way ["await", primary] (gives .awaited), same primary]
  | .primary => [
      way [primary, ".", .name] (gives .attribute),
      way [primary, generator] (gives (.call none)),
      way [primary, "(", .optional arguments, ")"] called,
      same atom]
  -- what stands by itself
  | .atom => [
      way [.name] named,
      way ["True"] (gives (.constant "True")),
      way ["False"] (gives (.constant "False")),
      way ["None"] (gives (.constant "None")),
      way [.ahead .text, texts] (pick 1),
      way [.number] numbered,
      way [.ahead "(", .group [same tuple, same group, same generator]] (pick 1),
      way [.ahead "\x7b", .group [same dict, same set, same dictRepetition, same setRepetition]]
        (pick 1),
      way ["..."] (gives .ellipsis)]
  | .texts => [way [.many true .text] joinedTexts]
  | .tuple => [
      way ["(", .optional (.group [way [element, ",", .optional elements] (prepend 0 2)]), ")"]
        (collect 1 .tuple)]
  | .group => [
      way ["(", .group [same yieldExpression, same namedExpression], ")"] (pick 1),
      suspect suspectGroup]
  | .generator => [
      way ["(", maybeNamed, clauses, ")"] (gives .generator), suspect suspectRepetition]
  | .set => [way ["\x7b", elements, "\x7d"] (collect 1 .set)]
  | .setRepetition => [
      way ["\x7b", namedExpression, clauses, "\x7d"] (gives .setRepetition),
      suspect suspectRepetition]
  | .dict => [
      way ["\x7b", .optional entries, "\x7d"] (collect 1 .dict),
      way ["\x7b", suspectEntries, "\x7d"] (pick 1)]
  | .dictRepetition => [
      way ["\x7b", keyValue, clauses, "\x7d"] (gives .dictRepetition),
      suspect suspectDictRepetition]
  | .entries => [way [.separated entry, .optional ","] (pick 0)]
  | .entry => [way ["**", bitOr] (wrap 1 (.entry .takenOver)), same keyValue]
  | .keyValue => [way [expression, ":", expression] (join .entry)]
  | .clauses => [way [.many true clause] (pick 0)]
  | .clause => [
      way ("async" :: clauseItems) (pick 0), way clauseItems (pick 0), suspect suspectTarget]
  -- arguments
  | .arguments => [way [someArguments, .optional ",", .ahead ")"] (pick 0),
      suspect suspectArguments]
  | .someArguments => [
      way [
          .separated (.group [
            way [starred] (argument .unpacked),
            way [maybeNamed, .notAhead "="] (argument .plain)]),
          .optional (.group [way [",", namedArguments] (pick 1)])]
        (append 0 1),
      same namedArguments]
  | .namedArguments => [
      way [.separated namedOrStarred, ",", .separated namedOrDoubleStarred] (append 0 2),
      way [.separated namedOrStarred] (pick 0),
      way [.separated namedOrDoubleStarred] (pick 0)]
  | .starred => [way ["*", expression] (wrap 1 .starred)]
  | .namedOrStarred => [
      suspect suspectNamed,
      way [.name, "=", expression] (argument .named),
      way [starred] (argument .unpacked)]
  | .namedOrDoubleStarred => [
      suspect suspectNamed,
      way [.name, "=", expression] (argument .named),
      way ["**", expression] (argument .namedUnpacked)]
  -- targets
  | .targets => [
      way [target, .notAhead ","] (pick 0),
      way [target, .many false (.group [way [",", target] (pick 1)]), .optional ","] (pick 0)]
  | .target => [way ["*", .group [way [.notAhead "*", target] (pick 1)]] (pick 1),
      same targetNoStar]
  | .targetNoStar => [
      way [targetPrimary, ".", .name, .notAhead targetGoesOn] (pick 0), same targetAtom]
  | .targetAtom => [
      way [.name] named,
      way ["(", targetNoStar, ")"] (pick 1),
      way ["(", .optional targetTuple, ")"] (pick 1)]
  | .targetTuple => [
      way [target, .many true (.group [way [",", target] (pick 1)]), .optional ","] (pick 0),
      way [target, ","] (pick 0)]
  | .targetPrimary => [
      way [targetPrimary, ".", .name, .ahead targetGoesOn] (pick 0),
      way [targetPrimary, generator, .ahead targetGoesOn] (pick 0),
      way [targetPrimary, "(", .optional arguments, ")", .ahead targetGoesOn] (pick 0),
      way [atom, .ahead targetGoesOn] (pick 0)]
  | .targetGoesOn => [way ["("] (pick 0), way ["."] (pick 0)]
  -- functions without a name
  | .function => [
      way ["lambda", .optional parameters, ":", expression] (gives .function)]
  | .parameters => [suspect suspectParameters, same allParameters]
  | .allParameters => [
      way [slashParameters, .many false parameterAlone, .many false parameterWithValue,
        .optional starParameters] (pick 0),
      way [slashWithValues, .many false parameterWithValue, .optional starParameters] (pick 0),
      way [.many true parameterAlone, .many false parameterWithValue, .optional starParameters]
        (pick 0),
      way [.many true parameterWithValue, .optional starParameters] (pick 0),
      same starParameters]
  | .slashParameters => slashed [.many true parameterAlone]
  | .slashWithValues => slashed [.many false parameterAlone, .many true parameterWithValue]
  | .starParameters => [
      suspect suspectStar,
      way ["*", parameterAlone, .many false parameterMaybeValue, .optional doubleStarParameter]
        (pick 0),
      way ["*", ",", .many true parameterMaybeValue, .optional doubleStarParameter] (pick 0),
      same doubleStarParameter]
  | .doubleStarParameter => [suspect suspectDoubleStar, way ["**", parameterAlone] (pick 0)]
  | .parameterAlone => ended [parameter]
  | .parameterWithValue => ended [parameter, value]
  | .parameterMaybeValue => ended [parameter, .optional value]
  | .parameter => [way [.name] named]
  | .value => [way ["=", expression] (pick 1), suspect suspectValue]
  -- suspicions
  | .suspectExpression => [
      way [.notAhead (.group [way [.name, .text] (pick 0), way [.opening] (pick 0)]),
        disjunction, plainExpression] comma,
      way [disjunction, "if", disjunction, .notAhead (anyOf ["else", ":"])]
        (blamesAt 0 .missingElse)]
  | .suspectCommand => [way [.name, .notAhead "(", starExpressions] command]
  | .suspectNaming => [
      way [expression, ":=", expression] (blamesExpr 0 fun e => some (.badTarget e.kind)),
      way [.name, "=", bitOr, .notAhead (anyOf ["=", ":="])] (blamesAt 0 .assignedName),
      way [
          .notAhead (.group [same tuple, same generator, way ["True"] (pick 0),
            way ["None"] (pick 0), way ["False"] (pick 0)]),
          bitOr, "=", bitOr, .notAhead (anyOf ["=", ":="])]
        (blamesExpr 1 fun e => some (.assigned e.kind))]
  | .suspectGroup => [
      way ["(", starred, ")"] (blamesAt 1 .starred),
      way ["(", "**", expression, ")"] (blamesAt 1 .doubleStarred)]
  | .suspectRepetition => [
      way [anyOf ["(", "\x7b"], starred, clauses] (blamesAt 1 .starredElement),
      way [anyOf ["\x7b"], element, ",", elements, clauses] (blamesAt 1 .bareElements),
      way [anyOf ["\x7b"], element, ",", clauses] (blamesAt 1 .bareElements)]
  | .suspectDictRepetition => [
      way ["\x7b", "**", bitOr, clauses, "\x7d"] (blamesAt 1 .unpackedEntry)]
  | .suspectEntries => [
      way [.separated entry, ",", suspectKeyValue] (pick 0),
      way [expression, ":", "*", bitOr] (blamesAt 2 .starredValue),
      way [expression, ":", .ahead (anyOf ["\x7d", ","])] (blamesAt 1 .missingValue)]
  | .suspectKeyValue => [
      way [expression, .notAhead ":"] (blamesBefore 1 .missingColon),
      way [expression, ":", "*", bitOr] (blamesAt 2 .starredValue),
      way [expression, ":", .ahead (anyOf ["\x7d", ","])] (blamesAt 1 .missingValue)]
  | .suspectTarget => [
      way [.optional "async", "for", starExpressions]
        (blamesExpr 2 fun e => e.untargetable?.map fun t => .unassignable t.kind)]
  | .suspectArguments => [
      way [someArguments, ",", "*"] (blamesAt 0 .lateUnpacking),
      way [expression, clauses, ",",
        .optional (.group [same someArguments, way [expression, clauses] (pick 0)])]
        (blamesAt 0 .bareRepetition),
      way [.name, "=", expression, clauses] (blamesAt 0 .assignedName),
      way [someArguments, clauses] lateRepetition,
      way [someArguments, ",", expression, clauses] (blamesAt 2 .bareRepetition),
      way [someArguments, ",", someArguments] lateArgument]
  | .suspectNamed => [
      way [anyOf ["True", "False", "None"], "="] constantNamed,
      way [.name, "=", expression, clauses] (blamesAt 0 .assignedName),
      way [.notAhead (.group [way [.name, "="] (pick 0)]), expression, "="]
        (blamesAt 1 .assignedArgument)]
  | .suspectValue => [
      way ["=", .ahead (anyOf [")", ","])] (blamesAt 0 (.parameter .missingValue))]
  | .suspectParameters => [
      way [.many false parameterAlone, valuesBefore, parameterAlone]
        (blamesAt 2 (.parameter .afterValue)),
      way [.many false parameterAlone, "(", .separated parameter, .optional ",", ")"]
        (blamesAt 1 (.parameter .bracketed)),
      way ["/", ","] (blamesAt 0 (.parameter .nothingBeforeSlash)),
      way [.group [same slashParameters, same slashWithValues], .many false parameterMaybeValue,
        "/"] (blamesAt 2 (.parameter .secondSlash)),
      way [.optional (.group [same slashParameters, same slashWithValues]),
        .many false parameterMaybeValue, "*", .group [way [","] (pick 0), same parameterAlone],
        .many false parameterMaybeValue, "/"] (blamesAt 5 (.parameter .slashAfterStar)),
      way [.many true parameterMaybeValue, "/", "*"] (blamesAt 2 (.parameter .slashBeforeStar))]
  | .valuesBefore => [same slashWithValues, way [.many true parameterWithValue] (pick 0)]
  | .suspectStar => [
      way ["*", .group [way [":"] (pick 0),
        way [",", .group [way [":"] (pick 0), way ["**"] (pick 0)]] (pick 0)]]
        (blames (.parameter .bareStar)),
      way ["*", parameter, "="] (blamesAt 2 (.parameter .starValue)),
      way ["*", .group [same parameterAlone, way [","] (pick 0)],
        .many false parameterMaybeValue, "*",
        .group [same parameterAlone, way [","] (pick 0)]] (blamesAt 3 (.parameter .secondStar))]
  | .suspectDoubleStar => [
      way ["**", parameter, "="] (blamesAt 2 (.parameter .doubleStarValue)),
      way ["**", parameter, ",", parameter] (blamesAt 3 (.parameter .afterDoubleStar)),
      way ["**", parameter, ",", anyOf ["*", "**", "/"]] (blamesAt 3 (.parameter .afterDoubleStar))]

/-- Phrases that begin with themselves. -/
def isLeftRecursive : Phrase → Bool
  | .bitOr | .bitXor | .bitAnd | .shift | .sum | .term | .primary | .targetPrimary => true
  | _ => false

/-- Phrases that are read once at each place. -/
def isKept : Phrase → Bool
  | .expression | .starExpression | .disjunction | .conjunction | .inversion | .factor | .awaited
  | .texts | .arguments | .target | .targetNoStar | .suspectNaming => true
  | _ => false

/-- The grammar of expressions. -/
def grammar : Grammar Phrase where
  alternatives := ways
  keeps := isKept
  isLeftRecursive := isLeftRecursive
  isTrusting p := p = .plainExpression

end Phrase
end DesignMetrics.Report.Literal
