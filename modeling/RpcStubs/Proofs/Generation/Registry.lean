import Mathlib.Data.List.Induction
import RpcStubs.Proofs.Generation.Outcome
import RpcStubs.Proofs.Log.Warning

/-!
# Registered plugins

A registration takes the place of an earlier one under the same name and goes to the end. So after
any number of registrations a generator holds, of each name, the plugin that was registered last
under it, and these in the order of their registrations (`Holds`). A run is one of the plugin that
was registered last under the name asked for, and if there is none it ends before it looks at any
file (`registry_invariant`).
-/

namespace RpcStubs

open Log (Journaled)

namespace Generator

/-! ## Registrations in order -/

/-- A plugin is among some registrations, and none under its name comes after it. -/
def Latest (registered : List Plugin) (plugin : Plugin) : Prop :=
  ∃ earlier later, registered = earlier ++ plugin :: later
    ∧ ∀ other ∈ later, other.name ≠ plugin.name

/-- Among names in order, which may be repeated, one stands for the last time before another one
stands for the last time. -/
def LastBefore (names : List String) (first second : String) : Prop :=
  ∃ earlier middle later, names = earlier ++ first :: middle ++ second :: later
    ∧ first ∉ middle ++ second :: later ∧ second ∉ later

section Order

variable {registered : List Plugin} {plugin other added : Plugin}

/-- The next registration is the last under its name, and leaves what is so under other names. -/
theorem latest_append_singleton_iff :
    Latest (registered ++ [added]) plugin ↔
      plugin = added ∨ plugin.name ≠ added.name ∧ Latest registered plugin := by
  constructor
  · rintro ⟨earlier, later, split, last⟩
    rcases List.eq_nil_or_concat' later with rfl | ⟨front, final, rfl⟩
    · exact .inl (List.singleton_inj.mp (List.append_inj_right' split rfl)).symm
    · rw [← List.cons_append, ← List.append_assoc] at split
      rcases List.append_inj' split rfl with ⟨before, isFinal⟩
      obtain rfl := List.singleton_inj.mp isFinal
      rcases List.forall_mem_append.mp last with ⟨inFront, inFinal⟩
      exact .inr ⟨(inFinal added List.mem_cons_self).symm, earlier, front, before, inFront⟩
  · rintro (rfl | ⟨different, earlier, later, rfl, last⟩)
    · exact ⟨registered, [], rfl, List.forall_mem_nil _⟩
    · refine ⟨earlier, later ++ [added], by simp, List.forall_mem_append.mpr ⟨last, ?_⟩⟩
      exact List.forall_mem_singleton.mpr different.symm

theorem Latest.mem (latest : Latest registered plugin) : plugin ∈ registered := by
  rcases latest with ⟨earlier, later, rfl, _⟩
  exact List.mem_append_right earlier List.mem_cons_self

/-- Under each name some registration is the last. -/
theorem exists_latest (member : plugin ∈ registered) :
    ∃ last, Latest registered last ∧ last.name = plugin.name := by
  -- Registrations are added at the end, so the induction goes from there.
  induction registered using List.reverseRecOn with
  | nil => cases member
  | append_singleton front added ih =>
      by_cases same : plugin.name = added.name
      · exact ⟨added, latest_append_singleton_iff.mpr (.inl rfl), same.symm⟩
      · have inFront : plugin ∈ front := by
          rcases List.mem_append.mp member with inFront | isAdded
          · exact inFront
          · exact absurd (congrArg Plugin.name (List.mem_singleton.mp isAdded)) same
        rcases ih inFront with ⟨last, latest, named⟩
        exact ⟨last, latest_append_singleton_iff.mpr (.inr ⟨named ▸ same, latest⟩), named⟩

/-- Under one name only one registration is the last. -/
theorem Latest.eq_of_name_eq (first : Latest registered plugin) (second : Latest registered other)
    (same : plugin.name = other.name) : plugin = other := by
  induction registered using List.reverseRecOn with
  | nil => cases first.mem
  | append_singleton front added ih =>
      rcases latest_append_singleton_iff.mp first with rfl | ⟨firstApart, firstLatest⟩
      · rcases latest_append_singleton_iff.mp second with rfl | ⟨secondApart, _⟩
        · rfl
        · exact absurd same.symm secondApart
      · rcases latest_append_singleton_iff.mp second with rfl | ⟨_, secondLatest⟩
        · exact absurd same firstApart
        · exact ih firstLatest secondLatest

theorem LastBefore.ne {names : List String} {first second : String}
    (before : LastBefore names first second) : first ≠ second := by
  rcases before with ⟨_, _, _, _, last, _⟩
  rintro rfl
  exact last (List.mem_append_right _ List.mem_cons_self)

/-- A further name changes nothing among the others. -/
theorem LastBefore.append_singleton {names : List String} {first second name : String}
    (before : LastBefore names first second) (firstApart : first ≠ name)
    (secondApart : second ≠ name) : LastBefore (names ++ [name]) first second := by
  rcases before with ⟨earlier, middle, later, rfl, firstLast, secondLast⟩
  refine ⟨earlier, middle, later ++ [name], by simp, ?_, ?_⟩
  · rw [← List.cons_append, ← List.append_assoc]
    exact List.not_mem_append firstLast (mt List.mem_singleton.mp firstApart)
  · exact List.not_mem_append secondLast (mt List.mem_singleton.mp secondApart)

/-- The name of the next registration comes behind all others. -/
theorem Latest.lastBefore_append_singleton (latest : Latest registered plugin)
    {name : String} (apart : plugin.name ≠ name) :
    LastBefore (registered.map Plugin.name ++ [name]) plugin.name name := by
  rcases latest with ⟨earlier, later, rfl, last⟩
  refine ⟨earlier.map Plugin.name, later.map Plugin.name, [], by simp, ?_, List.not_mem_nil⟩
  apply List.not_mem_append
  · intro member
    rcases List.mem_map.mp member with ⟨other, inLater, named⟩
    exact last other inLater named
  · exact mt List.mem_singleton.mp apart

end Order

/-! ## What a generator holds -/

theorem mem_plugins_register {generator : Generator} {added plugin : Plugin} :
    plugin ∈ (generator.register added).plugins ↔
      plugin = added ∨ plugin.name ≠ added.name ∧ plugin ∈ generator.plugins := by
  simp only [register, List.mem_append, List.mem_filter, bne_iff_ne, List.mem_singleton]
  tauto

theorem pluginNames_register (generator : Generator) (added : Plugin) :
    (generator.register added).pluginNames =
      (generator.pluginNames.filter fun name => name != added.name) ++ [added.name] := by
  simp only [pluginNames, register, List.map_append, List.filter_map]
  rfl

/-- A generator holds the plugins that were registered last under their names, in the order of these
registrations. -/
structure Holds (generator : Generator) (registered : List Plugin) : Prop where
  mem_iff : ∀ plugin, plugin ∈ generator.plugins ↔ Latest registered plugin
  ordered : generator.pluginNames.Pairwise (LastBefore (registered.map Plugin.name))

theorem holds_nil (selected : String) : Holds ⟨[], selected⟩ [] where
  mem_iff _ := ⟨fun member => absurd member List.not_mem_nil, Latest.mem⟩
  ordered := .nil

namespace Holds

variable {generator : Generator} {registered : List Plugin}

theorem register (holds : generator.Holds registered) (added : Plugin) :
    (generator.register added).Holds (registered ++ [added]) where
  mem_iff plugin := by
    rw [mem_plugins_register, latest_append_singleton_iff, holds.mem_iff]
  ordered := by
    have others : ∀ name ∈ generator.pluginNames.filter fun name => name != added.name,
        name ≠ added.name := by
      intro name member
      exact bne_iff_ne.mp (List.mem_filter.mp member).2
    rw [pluginNames_register, List.map_append, List.pairwise_append]
    refine ⟨?earlier, List.pairwise_singleton _ _, ?newest⟩
    case earlier =>
      refine (holds.ordered.sublist List.filter_sublist).imp_of_mem ?_
      intro first second firstMember secondMember before
      exact before.append_singleton (others first firstMember) (others second secondMember)
    case newest =>
      intro first member second isAdded
      obtain rfl := List.mem_singleton.mp isAdded
      rcases List.mem_map.mp (List.mem_filter.mp member).1 with ⟨plugin, held, rfl⟩
      exact ((holds.mem_iff plugin).mp held).lastBefore_append_singleton (others _ member)

theorem registers (holds : generator.Holds registered) (added : List Plugin) :
    (added.foldl Generator.register generator).Holds (registered ++ added) := by
  induction added generalizing generator registered with
  | nil => rwa [List.append_nil]
  | cons first rest ih =>
      rw [← List.singleton_append, ← List.append_assoc]
      exact ih (holds.register first)

theorem nodup_pluginNames (holds : generator.Holds registered) : generator.pluginNames.Nodup :=
  holds.ordered.imp LastBefore.ne

theorem mem_pluginNames_iff (holds : generator.Holds registered) {name : String} :
    name ∈ generator.pluginNames ↔ ∃ plugin ∈ registered, plugin.name = name := by
  constructor
  · intro member
    rcases List.mem_map.mp member with ⟨plugin, held, named⟩
    exact ⟨plugin, ((holds.mem_iff plugin).mp held).mem, named⟩
  · rintro ⟨plugin, member, rfl⟩
    rcases exists_latest member with ⟨last, latest, named⟩
    exact List.mem_map.mpr ⟨last, (holds.mem_iff last).mpr latest, named⟩

/-- The plugin to run is the one registered last under the name asked for. -/
theorem plugin?_eq_some (holds : generator.Holds registered) {plugin : Plugin}
    (latest : Latest registered plugin) (named : plugin.name = generator.selected) :
    generator.plugin? = some plugin := by
  have held := (holds.mem_iff plugin).mpr latest
  cases chosen : generator.plugin? with
  | none => exact absurd (beq_iff_eq.mpr named) (List.find?_eq_none.mp chosen plugin held)
  | some other =>
      -- The search finds some plugin held under the name, and only one is.
      rw [plugin?] at chosen
      have passed := List.find?_some chosen
      have otherNamed : other.name = generator.selected := beq_iff_eq.mp passed
      have otherLatest := (holds.mem_iff other).mp (List.mem_of_find?_eq_some chosen)
      rw [otherLatest.eq_of_name_eq latest (otherNamed.trans named.symm)]

theorem plugin?_eq_none_iff (holds : generator.Holds registered) :
    generator.plugin? = none ↔ ∀ plugin ∈ registered, plugin.name ≠ generator.selected := by
  constructor
  · intro none plugin member named
    rcases exists_latest member with ⟨last, latest, lastNamed⟩
    cases none.symm.trans (holds.plugin?_eq_some latest (lastNamed.trans named))
  · intro unnamed
    apply List.find?_eq_none.mpr
    intro plugin held
    exact mt beq_iff_eq.mp (unnamed plugin ((holds.mem_iff plugin).mp held).mem)

end Holds

/-! ## Runs -/

/-- A run that ends before it looks at any file: there is nothing in its journal but that no plugin
goes by the name asked for, and this is its failure. -/
def refusal (name : String) (available : List String) :
    Journaled GenerationError (List GeneratedFile) :=
  ⟨[.event none (.noPlugin name available)], .error (.unknownPlugin name)⟩

/-- A run of a plugin notes that it begins. -/
theorem starting_mem_journal_generateWith (plugin : Plugin) (set : DescriptorSet) :
    .event none (.starting plugin.name set.symbolTable.size) ∈
      (generateWith plugin set).journal := by
  unfold generateWith
  dsimp only
  split <;> simp [Journaled.journal_bind, Journaled.note]

theorem generateWith_ne_refusal (plugin : Plugin) (set : DescriptorSet) (name : String)
    (available : List String) : generateWith plugin set ≠ refusal name available := by
  intro same
  have starting := starting_mem_journal_generateWith plugin set
  rw [same, refusal, List.mem_singleton] at starting
  cases starting

theorem run_eq_refusal_iff (generator : Generator) (set : DescriptorSet) :
    generator.run set = refusal generator.selected generator.pluginNames ↔
      generator.plugin? = none := by
  cases chosen : generator.plugin? with
  | none =>
      rw [run, chosen]
      exact iff_of_true rfl rfl
  | some plugin =>
      rw [run_of_plugin?_eq_some chosen]
      exact iff_of_false (generateWith_ne_refusal plugin set _ _) (Option.some_ne_none plugin)

theorem selected_registers (generator : Generator) (added : List Plugin) :
    (added.foldl register generator).selected = generator.selected := by
  induction added generalizing generator with
  | nil => rfl
  | cons first rest ih => exact ih (generator.register first)

/-- After any registrations with a new generator, the names of the plugins are those registered, the
built-in one among them, each once, in the order in which they were last registered. If some plugin
was registered under the name asked for, then every run is one of the plugin that was registered
last under it. A run ends before it looks at any file, with the failure that no plugin goes by the
name, exactly if no plugin was registered under it. -/
theorem registry_invariant (options : Options) (added : List Plugin) :
    let generator := added.foldl register (ofOptions options)
    let registered := Stub.plugin options :: added
    generator.pluginNames.Nodup
      ∧ (∀ name, name ∈ generator.pluginNames ↔ ∃ plugin ∈ registered, plugin.name = name)
      ∧ generator.pluginNames.Pairwise (LastBefore (registered.map Plugin.name))
      ∧ ((∃ plugin ∈ registered, plugin.name = options.plugin) →
        ∃ plugin, Latest registered plugin ∧ plugin.name = options.plugin
          ∧ ∀ set, generator.run set = generateWith plugin set
            ∧ generator.generate set =
              (generateFiles plugin set.symbolTable set.files).outcome)
      ∧ ∀ set, generator.run set = refusal options.plugin generator.pluginNames ↔
        ∀ plugin ∈ registered, plugin.name ≠ options.plugin := by
  intro generator registered
  have holds : generator.Holds registered :=
    ((holds_nil options.plugin).register (Stub.plugin options)).registers added
  have selected : generator.selected = options.plugin := selected_registers _ added
  refine ⟨holds.nodup_pluginNames, fun name => holds.mem_pluginNames_iff, holds.ordered,
    ?chosen, ?refused⟩
  case chosen =>
    rintro ⟨plugin, member, named⟩
    rcases exists_latest member with ⟨last, latest, lastNamed⟩
    have lastSelected := lastNamed.trans named
    have chosen := holds.plugin?_eq_some latest (lastSelected.trans selected.symm)
    exact ⟨last, latest, lastSelected, fun set =>
      ⟨run_of_plugin?_eq_some chosen set, generate_of_plugin?_eq_some chosen set⟩⟩
  case refused =>
    intro set
    rw [← selected, run_eq_refusal_iff, holds.plugin?_eq_none_iff]

/-- A plugin under the name of the built-in one takes its place, but not its position. -/
example :
    let silent (name : String) : Plugin := ⟨name, fun _ _ => return none⟩
    let generator := [silent "docs", silent "rpcx", silent "docs"].foldl register (ofOptions {})
    generator.pluginNames = ["rpcx", "docs"] := by
  decide

end Generator

end RpcStubs
