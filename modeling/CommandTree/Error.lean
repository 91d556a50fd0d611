import CommandTree.Fault
import CommandTree.Value.Shown

/-!
# Errors

Everything that can go wrong other than a walk that halts: a declaration that is refused, a call in
the wrong state, an operation on a value that does not support it, and what a host's own functions
raise. There is one constructor per cause; `Error.message?` holds all wording. Errors of the last
groups have no text of their own.
-/

namespace CommandTree

/-- What is being declared or called when a field is refused. -/
inductive Owner where
  | literal
  | integer
  | float
  | choice
  | node
  | builder
  | requirement
  | command
  | context
  | executionContext
  | suggestionContext
  | walk
  | consoleSender
  deriving DecidableEq, Repr

def Owner.name : Owner → String
  | literal => "literal"
  | integer => "integer"
  | float => "float"
  | choice => "choice"
  | node => "ArgumentNode"
  | builder => "ArgumentBuilder"
  | requirement => "requirement"
  | command => "Command"
  | context => "Context"
  | executionContext => "ExecutionContext"
  | suggestionContext => "SuggestionContext"
  | walk => "Dispatcher"
  | consoleSender => "ConsoleSender"

/-- What a field has to be. -/
inductive Demand where
  | string
  | stringOrNone
  | nonEmptyString
  | word
  | integer
  | fitting
  | natural
  | number
  | callable
  | argumentType
  | requirements
  | node
  | nodes
  | strings
  | stringsApart
  deriving DecidableEq, Repr

def Demand.text : Demand → String
  | string => "must be a string"
  | stringOrNone => "must be a string or None"
  | nonEmptyString => "must be a non-empty string"
  | word => "must be a single non-empty word"
  | integer => "must be an integer"
  | fitting => "must fit in 32 bits"
  | natural => "must be a non-negative integer"
  | number => "must be a number"
  | callable => "must be callable"
  | argumentType => "must be an argument type"
  | requirements => "must contain requirements"
  | node => "must be a node"
  | nodes => "must contain nodes"
  | strings => "must be an iterable of strings"
  | stringsApart => "must be an iterable of strings, not a string"

/-- The sorts of errors that a caller can tell apart. -/
inductive Category where
  | type
  | value
  | key
  | attribute
  | overflow
  | memory
  | recursion
  | index
  | assertion
  | division
  | runtime
  | fault (kind : FaultKind)
  deriving DecidableEq, Repr

/-- A demand on the form of a value is refused as a value, every other as a type. -/
def Demand.category : Demand → Category
  | word | fitting => .value
  | _ => .type

inductive Error where
  -- declarations
  | unmet (owner : Owner) (field : String) (demand : Demand)
  | boundsCrossed (owner : Owner)
  | badTemplate (owner : Owner) (template : String)
  | rangeTooWide (least greatest ceiling : Int)
  | hostCeiling
  | noChoice
  | choiceNotString
  | choiceNotWord
  | choiceRepeated
  | childNamesRepeated (parent : String)
  | childNotGrammar
  | childIsParent
  | childNameTaken (child parent : String)
  | executorNotCallable
  | executorTaken (name : String)
  | handlerNotCallable
  | handlerTaken (name : String)
  | cycle (name : String)
  | blankPermission
  | errMessageNotString
  | resultIsAbstract
  | absenceIsSealed
  | faultMessage
  | positionalOverride
  -- calls
  | noResult (type : String) (answer : Value)
  | suggestionNotString
  | typedNotString
  | lineNotString
  | fieldNameNotString
  | notTriggerable
  | notACode
  | noChild (name : Value)
  | unwrapped (message : String)
  | renameTarget
  | renameName
  | renameFixed
  | renameArity (count : Nat)
  | decoratorName
  | decoratorTarget
  -- registry
  | reopened
  | closed
  | notOpen
  | notACommand
  | aliasNotWord
  | labelTaken (label : String)
  | labelUnknown (label : String)
  -- raised on purpose, by a handler or by a host's function
  | fault (fault : Fault)
  | host (message : String)
  -- operations that a value does not support
  | unbound (name : String)
  | noAttribute
  | fixedAttribute
  | unsupported
  | characterRange
  /-- A text would have half of a surrogate pair in it, which is no character. -/
  | surrogate
  | tooLarge
  | tooLong
  /-- Too many calls below each other. -/
  | tooDeep
  | noItem
  | notANumber
  | tooManyDigits
  | divisionByZero

namespace Error

def category : Error → Category
  | unmet _ _ demand => demand.category
  | boundsCrossed _ | badTemplate .. | rangeTooWide .. | choiceNotWord | choiceRepeated
  | childNamesRepeated _ | childIsParent | childNameTaken .. | cycle _ | unwrapped _
  | labelTaken _ | notANumber | tooManyDigits | surrogate => .value
  | hostCeiling | noChoice | choiceNotString | childNotGrammar | executorNotCallable
  | executorTaken _ | handlerNotCallable | handlerTaken _ | blankPermission
  | errMessageNotString | resultIsAbstract | absenceIsSealed | noResult .. | suggestionNotString
  | typedNotString | lineNotString | fieldNameNotString | notTriggerable | notACode
  | renameTarget | renameName | renameFixed | renameArity _ | decoratorName | decoratorTarget
  | notACommand | aliasNotWord | unsupported => .type
  | noChild _ | labelUnknown _ | unbound _ => .key
  | noAttribute | fixedAttribute => .attribute
  | characterRange | tooLarge => .overflow
  | tooLong => .memory
  | tooDeep => .recursion
  | noItem => .index
  | faultMessage | positionalOverride => .assertion
  | divisionByZero => .division
  | reopened | closed | notOpen | host _ => .runtime
  | fault f => .fault f.kind

/-- The text of an error, if it has one. That of a fault is its headline. -/
def message? : Error → Option String
  | unmet owner field demand => s!"{owner.name} '{field}' {demand.text}"
  | boundsCrossed owner => s!"{owner.name} 'min' cannot be greater than 'max'"
  | badTemplate owner template =>
    s!"{owner.name} 'error' is not a valid message template: {Text.quote template}"
  | rangeTooWide least greatest ceiling =>
    s!"integer range [{least}, {greatest}] is too wide to suggest" ++
      s!" ({greatest - least + 1} values, ceiling is {ceiling})"
  | hostCeiling => "__ceiling__ must be a non-negative integer"
  | noChoice => "choice must specify at least one choice"
  | choiceNotString => "choice choices must be strings"
  | choiceNotWord => "choice choices must be single non-empty words"
  | choiceRepeated => "choice choices cannot contain duplicates"
  | childNamesRepeated parent => s!"ArgumentNode {Text.quote parent} children names must be unique"
  | childNotGrammar => "then() arguments must be builders or nodes"
  | childIsParent => "then() cannot attach a builder to itself"
  | childNameTaken child parent =>
    s!"then() child name {Text.quote child} is already in use under {Text.quote parent}"
  | executorNotCallable => "executes() argument must be callable"
  | executorTaken name => s!"executes() cannot override the executor of {Text.quote name}"
  | handlerNotCallable => "on_fail() argument must be callable"
  | handlerTaken name => s!"on_fail() cannot override the failure handler of {Text.quote name}"
  | cycle name => s!"build() found a cycle through {Text.quote name}"
  | blankPermission => "permission() node must be a non-empty string"
  | errMessageNotString => "Err() message must be a string"
  | resultIsAbstract => "type 'Result' cannot be instantiated directly, use Ok or Err"
  | absenceIsSealed => "type 'UnsetType' is not an acceptable base type"
  | faultMessage => ""
  | positionalOverride => "positional arguments are not allowed"
  | noResult type answer => s!"{type} parse() must return Ok or Err, not {answer.shown}"
  | suggestionNotString => "suggest() argument must be a string"
  | typedNotString => "prefixed() partial must be a string"
  | lineNotString => "tokenize() argument must be a string"
  | fieldNameNotString => "mirror() argument must be a string"
  | notTriggerable => "trigger() argument must have a __trigger__ and __replace__ methods"
  | notACode => "getdoc() argument must be a fault-code"
  | noChild name => name.shown
  | unwrapped message => message
  | renameTarget => "rename() first argument must be callable"
  | renameName => "rename() second argument must be a string"
  | renameFixed => "rename() first argument must be a updatable callable"
  | renameArity count => s!"rename takes 1 to 2 arguments but {count} were given"
  | decoratorName => "@rename() argument must be a string"
  | decoratorTarget => "@rename() must be applied to a callable"
  | reopened => "Registry cannot be reopened once closed"
  | closed => "Registry is closed"
  | notOpen => "Registry is not open yet"
  | notACommand => "register() argument must be a command"
  | aliasNotWord => "register() aliases must be single non-empty words"
  | labelTaken label => s!"register() label {Text.quote label} is already in use"
  | labelUnknown label => Text.quote label
  | fault f => f.headline.str?
  | host message => message
  | unbound _ | noAttribute | fixedAttribute | unsupported | characterRange | surrogate | tooLarge
  | tooLong | tooDeep | noItem | notANumber | tooManyDigits | divisionByZero => none

end Error

namespace Value

/-- A value as it is shown on its own. A fault is shown by its headline, which has to be a
string. -/
def display : Value → Except Error String
  | str s => .ok s
  | code c => .ok (toString c.number)
  | outcome o => .ok (toString o.number)
  | text t => .ok t.plain
  | fault kind message options =>
    match (Fault.mk kind message options).headline with
    | str s => .ok s
    | _ => .error .unsupported
  | value => .ok value.shown

end Value

end CommandTree
