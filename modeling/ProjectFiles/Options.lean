import ProjectFiles.Model.Configuration

/-!
# Selection of options

The options of a configuration are computed axis by axis.  An axis has rules,
and the first rule that applies to the configuration sets its options.  Every
option belongs to the axis that set it first: other axes cannot change it, and
trying to do so is an error.
-/

namespace ProjectFiles

/-- Options to set, in order. -/
abbrev OptionEffect := List (String × Value)

/-- A condition on a configuration and the options that it sets. -/
structure OptionRule where
  applies : Configuration → Bool
  effect : OptionEffect

namespace OptionRule

/-- Applies when the configuration chose `value` on `axis`. -/
def setting (axis value : String) (effect : OptionEffect) : OptionRule where
  applies configuration := configuration.chosen? axis == some value
  effect := effect

/-- Applies when the configuration chose `value` on `axis` or nothing at all. -/
def defaultSetting (axis value : String) (effect : OptionEffect) : OptionRule where
  applies configuration := (configuration.chosen? axis).all (· == value)
  effect := effect

/-- Applies when the configuration produces a kind of binary. -/
def output (kind : OutputKind) (effect : OptionEffect) : OptionRule where
  applies configuration := configuration.output == kind
  effect := effect

end OptionRule

/-- One axis of options. -/
structure OptionAxis where
  name : String
  rules : List OptionRule
  /-- What to set when no rule applies; without it that is an error. -/
  fallback : Option OptionEffect

namespace OptionAxis

/-- An axis of which some rule has to apply. -/
def select (name : String) (rules : List OptionRule) : OptionAxis :=
  ⟨name, rules, none⟩

/-- An axis with something to set when no rule applies. -/
def selectWithFallback (name : String) (rules : List OptionRule) (fallback : OptionEffect) :
    OptionAxis :=
  ⟨name, rules, some fallback⟩

/-- A single computed option; its key is the name of the axis too. -/
def assign (key : String) (value : Value) : OptionAxis :=
  ⟨key, [], some [(key, value)]⟩

/-- The options that an axis sets for a configuration. -/
def effectFor? (axis : OptionAxis) (configuration : Configuration) : Option OptionEffect :=
  match axis.rules.find? fun rule => rule.applies configuration with
  | some rule => some rule.effect
  | none => axis.fallback

end OptionAxis

/-- The options computed for one configuration. -/
structure ExplicitOptions where
  values : SortedMap String Value
  /-- The axis that every option belongs to. -/
  owners : SortedMap String String

namespace ExplicitOptions

/-- No options. -/
def empty : ExplicitOptions := ⟨.empty, .empty⟩

/-- The value of an option. -/
def get? (options : ExplicitOptions) (key : String) : Option Value :=
  options.values.get? key

/-- The value of an option; one that is not set is omitted. -/
def getOrOmit (options : ExplicitOptions) (key : String) : Value :=
  (options.get? key).getD .omit

/-- Whether an option is set. -/
def contains (options : ExplicitOptions) (key : String) : Bool :=
  options.values.contains key

/-- The axis that an option belongs to. -/
def owner? (options : ExplicitOptions) (key : String) : Option String :=
  options.owners.get? key

/-- The options with their values, in the order of their keys. -/
def toList (options : ExplicitOptions) : List (String × Value) :=
  options.values.entries

/-- The options as an object, to be bound in a template. -/
def toValue (options : ExplicitOptions) : Value :=
  .object options.toList

/-- The options with one of them set to a value and given to an axis. -/
def record (options : ExplicitOptions) (axis key : String) (value : Value) : ExplicitOptions where
  values := options.values.insert key value
  owners := options.owners.insert key axis

/-- Set one option for an axis.  An option of another axis is left alone, and its
owner is returned. -/
def set (options : ExplicitOptions) (axis key : String) (value : Value) :
    ExplicitOptions × Option String :=
  match options.owner? key with
  | some owner =>
      if owner = axis then (options.record axis key value, none) else (options, some owner)
  | none => (options.record axis key value, none)

/-- Set options for an axis, one after the other.  The first option that belongs
to another axis is returned with its owner. -/
def apply (options : ExplicitOptions) (axis : String) :
    OptionEffect → ExplicitOptions × Option (String × String)
  | [] => (options, none)
  | (key, value) :: rest =>
      let (next, owner) := options.set axis key value
      let (final, collision) := apply next axis rest
      (final, (owner.map fun owner => (key, owner)).or collision)

/-- Compute one axis for a configuration.  After an error the options that could
be set are set. -/
def runAxis (options : ExplicitOptions) (configuration : Configuration) (axis : OptionAxis) :
    ExplicitOptions × Except GenerationError Unit :=
  match axis.effectFor? configuration with
  | none => (options, .error (.noOptionMatch configuration.display axis.name))
  | some effect =>
      match options.apply axis.name effect with
      | (final, none) => (final, .ok ())
      | (final, some (key, owner)) =>
          (final, .error (.optionKeyCollision configuration.display key axis.name owner))

/-- Compute axes for a configuration, from the first one to the first error. -/
def runAxes (options : ExplicitOptions) (configuration : Configuration) :
    List OptionAxis → Except GenerationError ExplicitOptions
  | [] => .ok options
  | axis :: rest =>
      match options.runAxis configuration axis with
      | (next, .ok ()) => runAxes next configuration rest
      | (_, .error error) => .error error

/-- The options that axes give a configuration. -/
def ofAxes (configuration : Configuration) (axes : List OptionAxis) :
    Except GenerationError ExplicitOptions :=
  empty.runAxes configuration axes

/-- The distinct values of an option, in the order in which they are first
seen.  Options that do not set it have the value `fallback`. -/
def distinctValues (key : String) (fallback : Value) (maps : List ExplicitOptions) : List Value :=
  maps.foldl
    (fun seen options =>
      let value := (options.get? key).getD fallback
      if seen.any fun other => other.same value then seen else seen ++ [value])
    []

/-- The value of an option that has to be the same for all configurations of a
file. -/
def uniform (file : Path) (key : String) (maps : List ExplicitOptions) (fallback : Value) :
    Except GenerationError Value :=
  match distinctValues key fallback maps with
  | [] => .ok fallback
  | [value] => .ok value
  | values => .error (.configurationConflict file (.optionValues key (values.map Value.display)))

end ExplicitOptions

end ProjectFiles
