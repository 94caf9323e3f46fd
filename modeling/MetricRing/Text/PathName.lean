/-!
# Path names

A path name split the way a path reader splits it: a leading `/` is the root; empty parts
(from repeated or trailing slashes) and `.` parts are skipped, except a `.` that starts the
path; `..` is the parent; anything else is a normal part.

* `components_normal` says a name with no slash that is not empty, `.` or `..` is one normal
  component.
-/

namespace MetricRing.Text

/-- One part of a path, as a path reader splits it. -/
inductive Component where
  | root
  | current
  | parent
  | normal (s : String)
deriving DecidableEq, Repr

/-- The components of a path: a leading `/` is the root, empty parts and `.` parts are skipped
except for a `.` at the very start, `..` is the parent. -/
def components (path : String) : List Component :=
  let parts := (path.toList.splitOn '/').map String.ofList
  let rooted := path.toList.head? == some '/'
  let lead : List Component :=
    if rooted then [.root]
    else if parts.head? = some "." then [.current] else []
  let rest := (if rooted || parts.head? = some "." then parts.drop 1 else parts)
  lead ++ (rest.filter fun p => p != "" && p != ".").map fun p =>
    if p == ".." then .parent else .normal p

theorem components_normal (s : String) (h1 : '/' ∉ s.toList) (h2 : s ≠ "")
    (h3 : s ≠ ".") (h4 : s ≠ "..") : components s = [.normal s] := by
  have hhead : (s.toList.head? == some '/') = false := by
    cases h : s.toList with
    | nil => rfl
    | cons c cs =>
      have hc : c ≠ '/' := fun hc => h1 (by rw [h, hc]; exact List.mem_cons_self)
      simp [hc]
  simp [components, List.splitOn_eq_singleton h1, hhead, h2, h3, h4]

end MetricRing.Text
