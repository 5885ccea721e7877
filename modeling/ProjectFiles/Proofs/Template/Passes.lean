import ProjectFiles.Proofs.Template.Expansion

/-!
# Successful passes

A pass replaces all placeholders of a text, and passes go on until there are none.  When
that succeeds, the result is settled by the texts that the placeholders stand for.  It
depends neither on what would be reported otherwise, nor on what would stand for unbound
names, nor on whether earlier passes have met escapes.
-/

namespace ProjectFiles

open Template Text

namespace Template

/-- Whether a text has no placeholders; it may have escapes. -/
def IsUnplaced (text : List Char) : Prop :=
  paths (tokens text) = []

instance (text : List Char) : Decidable (IsUnplaced text) :=
  inferInstanceAs (Decidable (_ = _))

end Template

namespace Resolver

variable {resolver : Resolver} {template : String} {text result : List Char} {passes : Nat}

/-- Whether every placeholder of a text stands for a text. -/
def Renders (resolver : Resolver) (text : List Char) : Prop :=
  ∀ path ∈ paths (tokens text), (resolver.rendering? path).isSome

/-- A text in which all placeholders are replaced. -/
def replaced (resolver : Resolver) (text : List Char) : List Char :=
  (resolver.expandOnce (tokens text)).flatMap Token.source

/-- `resolver.ResolvesWithin passes text result` means that a text has no placeholders after
a number of passes, and then becomes the result. -/
def ResolvesWithin (resolver : Resolver) : Nat → List Char → List Char → Prop
  | 0, text, result => IsUnplaced text ∧ result = unescape text
  | passes + 1, text, result =>
      resolver.Renders text ∧ resolver.ResolvesWithin passes (resolver.replaced text) result

theorem renders_of_isUnplaced (unplaced : IsUnplaced text) : resolver.Renders text := by
  unfold Renders
  rw [unplaced]
  exact nofun

theorem replaced_of_isUnplaced (unplaced : IsUnplaced text) : resolver.replaced text = text := by
  rw [replaced, expandOnce_eq_self unplaced, flatMap_source_tokens]

/-- Passes over a text without placeholders leave it as it is. -/
theorem resolvesWithin_of_isUnplaced (unplaced : IsUnplaced text) :
    resolver.ResolvesWithin passes text result ↔ result = unescape text := by
  induction passes with
  | zero => exact and_iff_right unplaced
  | succ passes ih =>
      rw [ResolvesWithin, replaced_of_isUnplaced unplaced]
      exact (and_iff_right (renders_of_isUnplaced unplaced)).trans ih

/-- Some number of passes more comes to the same. -/
theorem ResolvesWithin.mono {more : Nat} (resolves : resolver.ResolvesWithin passes text result)
    (fewer : passes ≤ more) : resolver.ResolvesWithin more text result := by
  induction passes generalizing more text with
  | zero => exact (resolvesWithin_of_isUnplaced resolves.1).2 resolves.2
  | succ passes ih =>
      cases more with
      | zero => cases fewer
      | succ more => exact ⟨resolves.1, ih resolves.2 (Nat.le_of_succ_le_succ fewer)⟩

/-- A text whose placeholders all stand for texts is done, or else is left to the next
pass. -/
theorem resolvePasses_succ (renders : resolver.Renders text) (template : String)
    (fallback : Option Value) (passes : Nat) (escaped : Bool) :
    resolver.resolvePasses template fallback (passes + 1) escaped text =
      if IsUnplaced text then .ok (String.ofList (unescape text))
      else resolver.resolvePasses template fallback passes
        (escaped || (tokens text).any Token.isEscape) (resolver.replaced text) := by
  have pass : resolver.replaceTokens template fallback (tokens text) = .ok _ :=
    replaceTokens_eq fun path member => failure?_eq_none_iff.2 (renders path member)
  rw [resolvePasses, substitute, pass, bind_ok]
  dsimp only
  by_cases unplaced : IsUnplaced text
  · rw [if_pos (List.length_eq_zero_iff.2 unplaced), if_pos unplaced, ← replaced,
      replaced_of_isUnplaced unplaced, unescape_eq fun isEscaped => by simp [isEscaped]]
    rfl
  · rw [if_neg (mt List.length_eq_zero_iff.1 unplaced), if_neg unplaced, replaced]

/-- What passes come to does not depend on what stands for unbound names. -/
theorem ResolvesWithin.resolvePasses_eq (resolves : resolver.ResolvesWithin passes text result)
    (template : String) (fallback : Option Value) (escaped : Bool) :
    resolver.resolvePasses template fallback (passes + 1) escaped text =
      .ok (String.ofList result) := by
  induction passes generalizing text escaped with
  | zero =>
      obtain ⟨unplaced, rfl⟩ := resolves
      rw [resolvePasses_succ (renders_of_isUnplaced unplaced), if_pos unplaced]
  | succ passes ih =>
      rw [resolvePasses_succ resolves.1]
      split
      · rename_i unplaced
        rw [(resolvesWithin_of_isUnplaced unplaced).1 resolves]
      · exact ih resolves.2 _

theorem resolvesWithin_of_resolvePasses {escaped : Bool} {resolved : String}
    (succeeds : resolver.resolvePasses template none (passes + 1) escaped text = .ok resolved) :
    resolver.ResolvesWithin passes text resolved.toList := by
  have renders : ∀ {passes escaped text}, resolver.resolvePasses template none (passes + 1)
      escaped text = .ok resolved → resolver.Renders text := by
    intro passes escaped text succeeds
    rw [resolvePasses, substitute] at succeeds
    obtain ⟨pass, isPass, _⟩ := ok_of_bind_eq_ok succeeds
    exact (replaceTokens_eq_ok_iff.1 isPass).1
  induction passes generalizing text escaped with
  | zero =>
      rw [resolvePasses_succ (renders succeeds)] at succeeds
      split at succeeds
      · rename_i unplaced
        cases succeeds
        exact ⟨unplaced, String.toList_ofList⟩
      · cases succeeds
  | succ passes ih =>
      have isRendered := renders succeeds
      rw [resolvePasses_succ isRendered] at succeeds
      split at succeeds
      · rename_i unplaced
        cases succeeds
        exact (resolvesWithin_of_isUnplaced unplaced).2 String.toList_ofList
      · exact ⟨isRendered, ih succeeds⟩

theorem resolvePasses_eq_ok_iff {escaped : Bool} {resolved : String} :
    resolver.resolvePasses template none (passes + 1) escaped text = .ok resolved ↔
      resolver.ResolvesWithin passes text resolved.toList := by
  refine ⟨resolvesWithin_of_resolvePasses, fun resolves => ?_⟩
  rw [resolves.resolvePasses_eq, String.ofList_toList]

theorem resolve_eq_ok_iff_resolvesWithin {resolved : String} :
    resolver.resolve template = .ok resolved ↔
      resolver.ResolvesWithin 15 template.toList resolved.toList :=
  resolvePasses_eq_ok_iff

/-! ## Other resolvers -/

variable {other : Resolver}

/-- A pass depends only on the texts of the placeholders that there are. -/
theorem replaced_congr (same : ∀ path ∈ paths (tokens text),
    other.rendering? path = resolver.rendering? path) :
    other.replaced text = resolver.replaced text := by
  unfold replaced expandOnce
  congr 1
  refine List.flatMap_congr fun token isToken => ?_
  cases token with
  | plain | escape => rfl
  | placeholder path =>
      have isPath : String.ofList path ∈ paths (tokens text) :=
        List.mem_filterMap.2 ⟨.placeholder path, isToken, rfl⟩
      rw [expandToken, expandToken, expansion, expansion, same _ isPath]

/-- Two resolvers that show the same texts come to the same when they do in the passes that
are left. -/
theorem resolvePasses_succ_congr {escaped : Bool} (same : ∀ path ∈ paths (tokens text), ∃ rendered,
      resolver.rendering? path = some rendered ∧ other.rendering? path = some rendered)
    (others : ∀ escaped,
      other.resolvePasses template none passes escaped (resolver.replaced text) =
        resolver.resolvePasses template none passes escaped (resolver.replaced text)) :
    other.resolvePasses template none (passes + 1) escaped text =
      resolver.resolvePasses template none (passes + 1) escaped text := by
  have renders : resolver.Renders text := fun path isPath =>
    Option.isSome_of_mem (same path isPath).choose_spec.1
  have rendersOther : other.Renders text := fun path isPath =>
    Option.isSome_of_mem (same path isPath).choose_spec.2
  have sameReplaced : other.replaced text = resolver.replaced text := by
    refine replaced_congr fun path isPath => ?_
    obtain ⟨rendered, isText, isOther⟩ := same path isPath
    rw [isText, isOther]
  rw [resolvePasses_succ rendersOther, resolvePasses_succ renders, sameReplaced, others]

/-- Whether every text that a resolver shows is shown by another one. -/
def ShownBy (resolver other : Resolver) : Prop :=
  ∀ path text, resolver.rendering? path = some text → other.rendering? path = some text

theorem ShownBy.rendering?_eq (shownBy : resolver.ShownBy other) {path : String}
    (renders : (resolver.rendering? path).isSome) :
    other.rendering? path = resolver.rendering? path := by
  obtain ⟨rendered, isText⟩ := Option.isSome_iff_exists.1 renders
  rw [isText, shownBy path rendered isText]

theorem ShownBy.resolvesWithin (shownBy : resolver.ShownBy other)
    (resolves : resolver.ResolvesWithin passes text result) :
    other.ResolvesWithin passes text result := by
  induction passes generalizing text with
  | zero => exact resolves
  | succ passes ih =>
      obtain ⟨renders, resolves⟩ := resolves
      have same : ∀ path ∈ paths (tokens text),
          other.rendering? path = resolver.rendering? path :=
        fun path isPath => shownBy.rendering?_eq (renders path isPath)
      refine ⟨fun path isPath => ?_, ?_⟩
      · rw [same path isPath]
        exact renders path isPath
      · rw [replaced_congr same]
        exact ih resolves

/-- What is resolved stays so when more is shown. -/
theorem ShownBy.resolve (shownBy : resolver.ShownBy other) {resolved : String}
    (isResolved : resolver.resolve template = .ok resolved) :
    other.resolve template = .ok resolved :=
  resolve_eq_ok_iff_resolvesWithin.2
    (shownBy.resolvesWithin (resolve_eq_ok_iff_resolvesWithin.1 isResolved))

end Resolver

end ProjectFiles
