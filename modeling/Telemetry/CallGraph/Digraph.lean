/-!
# Directed graphs with numbered nodes

What a library of directed graphs offers to a graph of services. Nodes carry names and links
carry weights; both are numbered from zero as they are added.

* `Digraphs γ`: the operations, on graphs of type `γ`;
* `Digraphs.Lawful`: what they do. It is left open which one is found of several links between
  two nodes, and in which order the links of a node are listed;
* `Digraphs.listed`: graphs as lists, which find and list the newest link first.
-/

namespace Telemetry

/-- A link from one numbered node to another. -/
structure Link where
  source : Nat
  target : Nat
  weight : Nat
  deriving DecidableEq

/-- The two nodes of a link. -/
def Link.ends (l : Link) : Nat × Nat := (l.source, l.target)

/-- The link with its weight greater by one. -/
def Link.bump (l : Link) : Link := { l with weight := l.weight + 1 }

/-- Whether the links that begin at a node are meant or those that end there. -/
inductive Side where
  | outgoing
  | incoming
  deriving DecidableEq

/-- The node of a link that it is listed at. -/
def Side.near : Side → Link → Nat
  | .outgoing, l => l.source
  | .incoming, l => l.target

/-- The other node of a link. -/
def Side.far : Side → Link → Nat
  | .outgoing, l => l.target
  | .incoming, l => l.source

/-- The operations of a library of directed graphs. -/
structure Digraphs (γ : Type) where
  /-- The graph without nodes. -/
  empty : γ
  /-- The names of all nodes by their numbers. -/
  names : γ → List String
  /-- All links by their numbers. -/
  links : γ → List Link
  /-- Adds a node; gives its number too. -/
  addNode : γ → String → Nat × γ
  /-- Adds a link between two nodes. -/
  addLink : γ → Link → γ
  /-- Adds one to the weight of the link of the given number. -/
  bump : γ → Nat → γ
  /-- The number of a link from one node to another. -/
  findLink? : γ → Nat → Nat → Option Nat
  /-- The links of a node on one side, with their numbers. -/
  linksAt : γ → Side → Nat → List (Link × Nat)

variable {γ : Type}

/-- What the operations of a library do: nodes and links are added at the end and stay where
they are, a link is found wherever there is one, and all links of a node are listed. -/
structure Digraphs.Lawful (lib : Digraphs γ) : Prop where
  names_empty : lib.names lib.empty = []
  links_empty : lib.links lib.empty = []
  number_addNode (g : γ) (name : String) : (lib.addNode g name).1 = (lib.names g).length
  names_addNode (g : γ) (name : String) : lib.names (lib.addNode g name).2 = lib.names g ++ [name]
  links_addNode (g : γ) (name : String) : lib.links (lib.addNode g name).2 = lib.links g
  names_addLink {g : γ} {l : Link} : l.source < (lib.names g).length →
    l.target < (lib.names g).length → lib.names (lib.addLink g l) = lib.names g
  links_addLink {g : γ} {l : Link} : l.source < (lib.names g).length →
    l.target < (lib.names g).length → lib.links (lib.addLink g l) = lib.links g ++ [l]
  names_bump {g : γ} {k : Nat} {l : Link} : (lib.links g)[k]? = some l →
    lib.names (lib.bump g k) = lib.names g
  links_bump {g : γ} {k : Nat} {l : Link} : (lib.links g)[k]? = some l →
    lib.links (lib.bump g k) = (lib.links g).set k l.bump
  findLink?_eq_some {g : γ} {i j k : Nat} : lib.findLink? g i j = some k →
    ∃ l, (lib.links g)[k]? = some l ∧ l.ends = (i, j)
  findLink?_eq_none {g : γ} {i j : Nat} : lib.findLink? g i j = none →
    ∀ l ∈ lib.links g, l.ends ≠ (i, j)
  linksAt_perm (g : γ) (side : Side) (i : Nat) :
    (lib.linksAt g side i).Perm ((lib.links g).zipIdx.filter fun e => side.near e.1 = i)

/-! ## Graphs as lists -/

/-- A graph as the lists of its nodes and links. -/
structure ListedGraph where
  names : List String
  links : List Link

/-- Graphs as lists. The newest links come first, where there is a choice. -/
def Digraphs.listed : Digraphs ListedGraph where
  empty := ⟨[], []⟩
  names g := g.names
  links g := g.links
  addNode g name := (g.names.length, { g with names := g.names ++ [name] })
  addLink g l := { g with links := g.links ++ [l] }
  bump g k :=
    match g.links[k]? with
    | some l => { g with links := g.links.set k l.bump }
    | none => g
  findLink? g i j := (g.links.zipIdx.reverse.find? fun e => e.1.ends = (i, j)).map (·.2)
  linksAt g side i := (g.links.zipIdx.filter fun e => side.near e.1 = i).reverse

theorem Digraphs.listed_lawful : listed.Lawful where
  names_empty := rfl
  links_empty := rfl
  number_addNode _ _ := rfl
  names_addNode _ _ := rfl
  links_addNode _ _ := rfl
  names_addLink _ _ := rfl
  links_addLink _ _ := rfl
  names_bump {g k l} h := by
    have h : g.links[k]? = some l := h
    simp only [listed, h]
  links_bump {g k l} h := by
    have h : g.links[k]? = some l := h
    simp only [listed, h]
  findLink?_eq_some {g i j k} h := by
    obtain ⟨e, he, rfl⟩ := Option.map_eq_some_iff.mp h
    have hmem := List.mem_reverse.mp (List.mem_of_find?_eq_some he)
    have hends := List.find?_some he
    exact ⟨e.1, List.mem_zipIdx_iff_getElem?.mp hmem, of_decide_eq_true hends⟩
  findLink?_eq_none {g i j} h l hl := by
    obtain ⟨k, hk⟩ := List.getElem?_of_mem hl
    have hnone := List.find?_eq_none.mp (Option.map_eq_none_iff.mp h) (l, k)
      (List.mem_reverse.mpr (List.mem_zipIdx_iff_getElem?.mpr hk))
    exact fun e => hnone (decide_eq_true e)
  linksAt_perm _ _ _ := List.reverse_perm _

end Telemetry
