import SqlSmell.Rule.Selection

/- The registry: rules in the order of their registration, each under its key, which is its title in
   small letters. No key is used twice. Evaluation keeps the order. -/
namespace SqlSmell

/-- Rules of different keys, in order of registration. -/
structure Registry where
  entries : List (String × Rule)
  /-- A key is the title of its rule in small letters. -/
  keyed : ∀ entry ∈ entries, entry.1 = Text.asciiLower entry.2.title
  /-- No key is used twice. -/
  distinct : (entries.map Prod.fst).Nodup

namespace Registry

/-- No rules. -/
def empty : Registry := ⟨[], fun _ h => absurd h List.not_mem_nil, .nil⟩

/-- The keys, in order of registration. -/
def keys (g : Registry) : List String := g.entries.map Prod.fst

/-- The rules, in order of registration. -/
def rules (g : Registry) : List Rule := g.entries.map Prod.snd

/-- The rule of this title. -/
def get? (g : Registry) (title : String) : Option Rule := g.entries.lookup (Text.asciiLower title)

/-- Is there a rule of this title? -/
def contains (g : Registry) (title : String) : Bool := (g.get? title).isSome

/-- The titles, in order of registration. -/
def titles (g : Registry) : List String := g.rules.map Rule.title

/-- The number of rules. -/
def size (g : Registry) : Nat := g.entries.length

/-- Appends a rule under a key that is not in use. -/
def insert (g : Registry) (r : Rule) (h : Text.asciiLower r.title ∉ g.keys) : Registry where
  entries := g.entries ++ [(Text.asciiLower r.title, r)]
  keyed := by
    intro entry hentry
    rcases List.mem_append.1 hentry with hold | hnew
    · exact g.keyed entry hold
    · rw [List.mem_singleton.1 hnew]
  distinct := by
    rw [List.map_append, List.nodup_append]
    refine ⟨g.distinct, List.pairwise_singleton _ _, ?_⟩
    intro key hkey other hother heq
    rw [List.map_singleton, List.mem_singleton] at hother
    rw [heq, hother] at hkey
    exact h hkey

/-- Registers a rule: the registry behind the call, and what the call answers. A rule whose key is in
    use is refused. -/
def register (g : Registry) (r : Rule) : Registry × Except Error Unit :=
  if h : Text.asciiLower r.title ∈ g.keys then (g, .error (.duplicateRule r.title))
  else (g.insert r h, .ok ())

/-- Registers rules one by one, up to the first that is refused. -/
def registerAll (g : Registry) : List Rule → Except Error Registry
  | [] => .ok g
  | r :: more =>
    match g.register r with
    | (g', .ok ()) => registerAll g' more
    | (_, .error e) => .error e

/-- The number of rules that run. -/
def enabledCount (g : Registry) (selection : Selection) : Nat :=
  g.rules.countP (fun r => selection.isEnabled r.title)

/-- The severity with which a rule reports. -/
def effectiveSeverity (selection : Selection) (r : Rule) : Severity :=
  (selection.severityOverride r.title).getD r.info.severity

/-- The diagnostics of the rules that run, in order of registration. -/
def evaluate (g : Registry) (selection : Selection) (sql : String) : List Diagnostic :=
  (g.rules.filter fun r => selection.isEnabled r.title).filterMap fun r =>
    r.check sql (effectiveSeverity selection r)

end Registry

end SqlSmell
