import NodeDiscovery.Toml.Statement

/-!
# TOML documents

A document says what its statements say one after the other: a header turns to a table, and keys
with values go into the table that was turned to last.

## Main definitions

* `Draft`, `Draft.add?` — what was said so far, and the effect of one more statement.
* `parse?` — the table that a document stands for.
-/

namespace NodeDiscovery
namespace Toml

/-- What a document said so far. -/
structure Draft where
  /-- The named values at the top. -/
  entries : Entries
  /-- The names that lead from the top to the table that was turned to last. -/
  here : List String

namespace Draft

/-- Nothing said yet. -/
def empty : Draft := ⟨[], []⟩

/-- The effect of one more statement; `none` if what was said before forbids it. -/
def add? (d : Draft) : Statement → Option Draft
  | .header key =>
    (Entries.within? (Entries.declare? key.name) key.path d.entries).map (⟨·, key.names⟩)
  | .element key =>
    (Entries.within? (Entries.extend? key.name) key.path d.entries).map (⟨·, key.names⟩)
  | .entry key v =>
    (Entries.within? (Entries.insert? key v) d.here d.entries).map (⟨·, d.here⟩)

end Draft

/-- The table that a document stands for; `none` if the text is no document. -/
def parse? (text : String) : Option Entries :=
  match statements? text.toList with
  | none => none
  | some statements => (statements.foldlM Draft.add? Draft.empty).map Draft.entries

end Toml
end NodeDiscovery
