import ProjectFiles.Proofs.Template.Token
import ProjectFiles.Proofs.Text.Characters
import ProjectFiles.Template.OutputBuffer

/-!
# Scopes of templates

A scope says which names a template may refer to, and whether each is bound to a
scalar or to a record of scalars.  A template that keeps to the scope is resolved
whenever the bindings fit it: every placeholder is replaced by the text of its
value, once, since the texts of the values hold no brackets.
-/

namespace ProjectFiles

open Template Text

/-! ## Values that fit a scope -/

/-- What a name of a scope is bound to. -/
inductive Shape where
  | scalar
  /-- A record whose fields of the given names are scalars. -/
  | record (fields : List String)
  deriving DecidableEq

/-- The names that a template may refer to. -/
abbrev Scope := List (String × Shape)

namespace Value

/-- Whether a value has a text, which avoids some characters. -/
def HasText (avoided : List Char) (value : Value) : Prop :=
  ∃ text, value.scalarText? = some text ∧ Avoids avoided text

/-- Whether a value has the shape that a scope asks for. -/
def Fits (avoided : List Char) (value : Value) : Shape → Prop
  | .scalar => value.HasText avoided
  | .record fields => ∀ field ∈ fields, ∃ inner, value.lookup? [field] = some inner ∧
      inner.HasText avoided

variable {avoided : List Char}

theorem hasText_text {text : String} (avoids : Avoids avoided text) :
    (Value.text text).HasText avoided :=
  ⟨text, rfl, avoids⟩

theorem hasText_omit (within : avoided ⊆ separators) : Value.omit.HasText avoided :=
  ⟨omitTag, rfl, Avoids.of_isFixed within (by decide)⟩

theorem hasText_integer (within : avoided ⊆ separators) (n : Int) :
    (Value.integer n).HasText avoided :=
  ⟨Decimal.ofInt n, rfl, Decimal.avoids_ofInt within n⟩

theorem hasText_ofText? (within : avoided ⊆ separators) {text : Option String}
    (avoids : ∀ value ∈ text, Avoids avoided value) : (ofText? text).HasText avoided := by
  cases text with
  | none => exact hasText_omit within
  | some value => exact hasText_text (avoids value rfl)

theorem itemTexts?_map_text (texts : List String) : itemTexts? (texts.map .text) = some texts := by
  induction texts with
  | nil => rfl
  | cons first rest ih => simp [itemTexts?, scalarText?, ih]

/-- A list of texts has its texts with semicolons between them. -/
theorem hasText_list (within : avoided ⊆ separators) {α : Type} {members : List α}
    {textOf : α → String} (avoids : ∀ member ∈ members, Avoids avoided (textOf member)) :
    (Value.list (members.map fun member => .text (textOf member))).HasText avoided := by
  have spelled : members.map (fun member => Value.text (textOf member)) =
      (members.map textOf).map .text := by simp
  refine ⟨";".intercalate (members.map textOf), ?_, ?_⟩
  · rw [spelled, scalarText?, itemTexts?_map_text]
    rfl
  · refine .intercalate (.of_isFixed within (by decide)) fun text member => ?_
    obtain ⟨given, isMember, rfl⟩ := List.mem_map.1 member
    exact avoids given isMember

end Value

/-- Bindings that have the names and the shapes of a scope. -/
inductive Scope.Fits (avoided : List Char) : Scope → List (String × Value) → Prop where
  | nil : Fits avoided [] []
  | cons {name : String} {shape : Shape} {value : Value} {scope : Scope}
      {bindings : List (String × Value)} (fits : value.Fits avoided shape)
      (others : Fits avoided scope bindings) :
      Fits avoided ((name, shape) :: scope) ((name, value) :: bindings)

namespace Scope

variable {avoided : List Char} {scope : Scope} {bindings : List (String × Value)}

theorem Fits.scalar {name : String} {value : Value} (hasText : value.HasText avoided)
    (others : scope.Fits avoided bindings) :
    Fits avoided ((name, .scalar) :: scope) ((name, value) :: bindings) :=
  .cons hasText others

theorem Fits.text {name text : String} (avoids : Avoids avoided text)
    (others : scope.Fits avoided bindings) :
    Fits avoided ((name, .scalar) :: scope) ((name, .text text) :: bindings) :=
  .scalar (Value.hasText_text avoids) others

theorem Fits.append {inner : Scope} {own : List (String × Value)} (fits : inner.Fits avoided own)
    (others : scope.Fits avoided bindings) : Fits avoided (inner ++ scope) (own ++ bindings) := by
  induction fits with
  | nil => exact others
  | cons fits _ ih => exact .cons fits ih

theorem Fits.names_eq (fits : scope.Fits avoided bindings) :
    bindings.map (·.1) = scope.map (·.1) := by
  induction fits with
  | nil => rfl
  | cons _ _ ih => rw [List.map_cons, List.map_cons, ih]

/-- A name of the scope is bound to a value of its shape. -/
theorem Fits.lookup (fits : scope.Fits avoided bindings) {probe : String} {shape : Shape}
    (found : scope.lookup probe = some shape) :
    ∃ value, bindings.lookup probe = some value ∧ value.Fits avoided shape := by
  induction fits with
  | nil => cases found
  | cons fits _ ih =>
      rw [List.lookup_cons] at found ⊢
      split at found
      · cases found
        exact ⟨_, rfl, fits⟩
      · exact ih found

/-! ## Templates that keep to a scope -/

/-- Whether a placeholder leads to a scalar of a scope. -/
def admits (scope : Scope) (path : String) : Bool :=
  match Resolver.pathSegments path with
  | [root] => scope.lookup root = some .scalar
  | [root, field] =>
      match scope.lookup root with
      | some (.record fields) => fields.contains field
      | _ => false
  | _ => false

/-- Whether a token is a placeholder of the scope or a character that opens none. -/
def admitsToken (scope : Scope) : Token → Bool
  | .plain c => c != '['
  | .escape _ => false
  | .placeholder path => scope.admits (String.ofList path)

/-- Whether a text refers to nothing but a scope, and has no escapes. -/
def closes (scope : Scope) (text : List Char) : Bool :=
  (tokens text).all scope.admitsToken

theorem reads_of_closes {text : List Char} (closes : scope.closes text = true) :
    Reads text (tokens text) := by
  apply reads_tokens
  intro member
  have admitted := List.all_eq_true.1 closes _ member
  simp [admitsToken] at admitted

/-- What is bound further outside does not hide what a scope admits. -/
theorem closes_append_scope {outer : Scope} {text : List Char}
    (closes : scope.closes text = true) : (scope ++ outer).closes text = true := by
  have kept : ∀ {name : String} {shape : Shape}, scope.lookup name = some shape →
      (scope ++ outer).lookup name = some shape := by
    intro name shape found
    rw [List.lookup_append, found, Option.some_or]
  refine List.all_eq_true.2 fun token member => ?_
  have admitted := List.all_eq_true.1 closes token member
  cases token with
  | plain c => exact admitted
  | escape word => exact admitted
  | placeholder path =>
      simp only [admitsToken, admits] at admitted ⊢
      split at admitted
      · exact decide_eq_true (kept (of_decide_eq_true admitted))
      · split at admitted
        · rename_i fields isRecord
          rw [kept isRecord]
          exact admitted
        · cases admitted
      · cases admitted

theorem closes_append {former latter : List Char} (closesFormer : scope.closes former = true)
    (closesLatter : scope.closes latter = true) : scope.closes (former ++ latter) = true := by
  unfold closes
  rw [(reads_of_closes closesFormer).tokens_append, List.all_append, Bool.and_eq_true]
  exact ⟨closesFormer, closesLatter⟩

theorem closes_unlines_nil : scope.closes (unlines []).toList = true := by
  simp [unlines, closes, tokens, tokensAfter]

/-- A template keeps to a scope when its lines do. -/
theorem closes_unlines_cons {line : List Char} {texts : List String}
    (closesLine : scope.closes line = true)
    (closesRest : scope.closes (unlines texts).toList = true) :
    scope.closes (unlines (String.ofList line :: texts)).toList = true := by
  rw [toList_unlines_cons, ← List.singleton_append, ← List.append_assoc]
  exact closes_append (closes_append closesLine rfl) closesRest

end Scope

/-! ## Filling -/

namespace Template

/-- The value of a placeholder. -/
def lookup? (bindings : List (String × Value)) (path : String) : Option Value :=
  match Resolver.pathSegments path with
  | [] => none
  | root :: fields => (bindings.lookup root).bind (Value.lookup? fields)

/-- The text of a token when the values stand for their names. -/
def fillToken (bindings : List (String × Value)) : Token → List Char
  | .placeholder path =>
      (((lookup? bindings (String.ofList path)).bind Value.scalarText?).getD "").toList
  | other => other.source

/-- A template in which values stand for their names. -/
def fill (bindings : List (String × Value)) (template : List Char) : List Char :=
  (tokens template).flatMap (fillToken bindings)

/-- The text of a filled template. -/
def filled (bindings : List (String × Value)) (template : String) : String :=
  String.ofList (fill bindings template.toList)

variable {avoided : List Char} {scope : Scope} {bindings : List (String × Value)}

theorem fill_append {former : List Char} (closes : scope.closes former = true)
    (latter : List Char) :
    fill bindings (former ++ latter) = fill bindings former ++ fill bindings latter := by
  unfold fill
  rw [(Scope.reads_of_closes closes).tokens_append, List.flatMap_append]

/-- A placeholder that a scope admits has a text. -/
theorem exists_text_of_admits (fits : scope.Fits avoided bindings) {path : String}
    (admitted : scope.admits path = true) :
    ∃ value text, lookup? bindings path = some value ∧ value.scalarText? = some text ∧
      Avoids avoided text := by
  unfold Scope.admits at admitted
  unfold lookup?
  split at admitted
  · rename_i root spelled
    obtain ⟨value, found, text, isText, avoids⟩ := fits.lookup (of_decide_eq_true admitted)
    exact ⟨value, text, by simp [spelled, found, Value.lookup?], isText, avoids⟩
  · rename_i root field spelled
    split at admitted
    · rename_i fields isRecord
      obtain ⟨record, found, fitsRecord⟩ := fits.lookup isRecord
      obtain ⟨value, isField, text, isText, avoids⟩ :=
        fitsRecord field (List.contains_iff_mem.1 admitted)
      exact ⟨value, text, by simp [spelled, found, isField], isText, avoids⟩
    · cases admitted
  · cases admitted

/-- What stands for a token has only characters of the template and of the values. -/
theorem avoids_fillToken (fits : scope.Fits avoided bindings) {token : Token}
    (admitted : scope.admitsToken token = true) {c : Char}
    (member : c ∈ fillToken bindings token) : token = .plain c ∨ c ∉ avoided := by
  cases token with
  | plain other =>
      rw [fillToken, Token.source, List.mem_singleton] at member
      · exact .inl (by rw [member])
      · simp
  | escape => cases admitted
  | placeholder path =>
      obtain ⟨value, text, found, isText, avoids⟩ := exists_text_of_admits fits admitted
      simp only [fillToken, found, Option.bind_some, isText, Option.getD_some] at member
      exact .inr (avoids c member)

/-- A filled template has no opening brackets. -/
theorem bracket_notMem_fill (fits : scope.Fits avoided bindings) (bracket : '[' ∈ avoided)
    {template : List Char} (closes : scope.closes template = true) :
    '[' ∉ fill bindings template := by
  intro member
  obtain ⟨token, inTokens, inText⟩ := List.mem_flatMap.1 member
  have admitted := List.all_eq_true.1 closes token inTokens
  rcases avoids_fillToken fits admitted inText with rfl | isFree
  · simp [Scope.admitsToken] at admitted
  · exact isFree bracket

end Template

/-! ## Resolvers that show bindings -/

namespace Resolver

variable {avoided : List Char} {scope inner : Scope} {bindings own : List (String × Value)}
variable {resolver : Resolver}

/-- Whether the visible value of every name of some bindings is the bound one. -/
def Shows (resolver : Resolver) (bindings : List (String × Value)) : Prop :=
  ∀ name value, bindings.lookup name = some value →
    (resolver.stack (resolver.key name)).head?.map (·.value) = some value

theorem shows_nil (resolver : Resolver) : resolver.Shows [] := by
  intro name value found
  cases found

theorem Shows.lookup? (shows : resolver.Shows bindings) {path : String} {value : Value}
    (found : Template.lookup? bindings path = some value) :
    resolver.lookup? path = some value := by
  unfold Template.lookup? at found
  unfold Resolver.lookup?
  split at found
  · cases found
  · rename_i root fields spelled
    obtain ⟨bound, isBound, leads⟩ := Option.bind_eq_some_iff.1 found
    have visible := shows root bound isBound
    obtain ⟨binding, isHead, rfl⟩ := Option.map_eq_some_iff.1 visible
    simp [spelled, isHead, leads]

/-- Tokens of a scope are replaced as the bindings say. -/
theorem Shows.replaceTokens (shows : resolver.Shows bindings)
    (fits : scope.Fits avoided bindings) (template : String) {tokens : List Token}
    (admitted : tokens.all scope.admitsToken = true) :
    ∃ count, resolver.replaceTokens template none tokens =
      .ok ⟨tokens.flatMap (fillToken bindings), count, false⟩ := by
  induction tokens with
  | nil => exact ⟨0, rfl⟩
  | cons token rest ih =>
      rw [List.all_cons, Bool.and_eq_true] at admitted
      obtain ⟨count, replaced⟩ := ih admitted.2
      cases token with
      | plain c =>
          refine ⟨count, ?_⟩
          simp [Resolver.replaceTokens, replaced, fillToken, Token.source]
      | escape => cases admitted.1
      | placeholder path =>
          obtain ⟨value, text, found, isText, _⟩ := exists_text_of_admits fits admitted.1
          have visible := shows.lookup? found
          refine ⟨count + 1, ?_⟩
          simp [Resolver.replaceTokens, replacement, visible, Value.render, isText, replaced,
            fillToken, found]
          rfl

theorem Shows.substitute (shows : resolver.Shows bindings) (fits : scope.Fits avoided bindings)
    (template : String) {text : List Char} (closes : scope.closes text = true) :
    ∃ count, resolver.substitute template none text = .ok ⟨fill bindings text, count, false⟩ :=
  shows.replaceTokens fits template closes

/-- A text without opening brackets is left as it is. -/
theorem substitute_of_bracketless (resolver : Resolver) (template : String) {text : List Char}
    (bracketless : '[' ∉ text) :
    resolver.substitute template none text = .ok ⟨text, 0, false⟩ := by
  have plain : ∀ characters : List Char,
      resolver.replaceTokens template none (characters.map .plain) =
        .ok ⟨characters, 0, false⟩ := by
    intro characters
    induction characters with
    | nil => rfl
    | cons c rest ih =>
        simp [Resolver.replaceTokens, ih]
  unfold Resolver.substitute
  rw [(reads_map_plain bracketless).tokens_eq, plain]

theorem resolvePasses_of_substitute {template : String} {text : List Char} {pass : Pass}
    (substituted : resolver.substitute template none text = .ok pass) (passes : Nat) :
    resolver.resolvePasses template none (passes + 1) false text =
      if pass.replaced = 0 then
        .ok (String.ofList (if pass.escaped then Template.unescape pass.text else pass.text))
      else resolver.resolvePasses template none passes pass.escaped pass.text := by
  rw [resolvePasses, substituted]
  rfl

/-- A template that keeps to its scope is resolved to the filled template. -/
theorem Shows.resolve (shows : resolver.Shows bindings) (fits : scope.Fits avoided bindings)
    (bracket : '[' ∈ avoided) {template : String} (closes : scope.closes template.toList = true) :
    resolver.resolve template = .ok (filled bindings template) := by
  obtain ⟨count, first⟩ := shows.substitute fits template closes
  have second := resolver.substitute_of_bracketless template
    (bracket_notMem_fill fits bracket closes)
  unfold Resolver.resolve passLimit
  rw [resolvePasses_of_substitute first, resolvePasses_of_substitute second]
  -- the second pass finds nothing to replace
  by_cases unplaced : count = 0 <;> simp [unplaced, filled]

end Resolver

end ProjectFiles
