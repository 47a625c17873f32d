import MacConsent.Diagnostic
import MacConsent.Files.Tree

/-!
# MacConsent.Store.Backing

What a durable store works on: three operations on files, and an observer. The
operations may be those of a real file system or those of a file tree that is
handed from one to the next.
-/

namespace MacConsent.Store

/-- Files and an observer, for programs in the monad `m`. -/
structure Backing (m : Type → Type) where
  /-- The text of a file. -/
  read : Files.Path → m (Except Files.Fault String)
  /-- Writes a file, new or in place of an earlier one. -/
  write : Files.Path → String → m (Except Files.Fault Unit)
  /-- Gives the first path's file the second path. -/
  rename : Files.Path → Files.Path → m (Except Files.Fault Unit)
  /-- Tells the observer. -/
  trace : Diagnostic → m Unit

/-- A file tree, and what the observer was told, in order. -/
structure Bench where
  tree : Files.Tree
  notes : List Diagnostic := []

namespace Backing

/-- Changes the tree of a bench, unless that fails. -/
def change (f : Files.Tree → Except Files.Fault Files.Tree) :
    StateM Bench (Except Files.Fault Unit) := fun b =>
  match f b.tree with
  | .error fault => (.error fault, b)
  | .ok tree => (.ok (), { b with tree })

/-- The operations on a bench. -/
def bench : Backing (StateM Bench) where
  read path := fun b => (b.tree.read path, b)
  write path text := change fun t => t.write path (some text)
  rename source target := change fun t => t.rename source target
  trace d := fun b => ((), { b with notes := b.notes ++ [d] })

end Backing

end MacConsent.Store
