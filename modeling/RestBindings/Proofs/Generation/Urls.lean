import Mathlib.Data.List.TakeWhile
import RestBindings.Generation.Options
import RestBindings.Proofs.Client.Path

/-! # Where the URL of the API and a path meet

A request goes to the URL of the API with the path of a method after it, one text right after the
other.  Options are resolved to a URL that does not end with a slash (`takeWhile_stripSlashes`), and
the path of a method is a joined path, which starts with one, so there is one slash where they meet.

`joined_paths_are_normal` puts together what joining paths does: it gives a normal form, in which
pieces may be joined in groups, so the path of a method goes on from that of its class or instance.
-/
namespace RestBindings
namespace Generation

open Client

/-- The slashes at the end of `base` and those at the start of `path`. -/
def slashesBetween (base path : String) : List Char :=
  base.toList.reverse.takeWhile (· == '/') ++ path.toList.takeWhile (· == '/')

/-- A URL whose slashes at the end are dropped ends with none. -/
theorem takeWhile_stripSlashes (url : String) :
    (stripSlashes url).toList.reverse.takeWhile (· == '/') = [] := by
  rw [stripSlashes, String.toList_ofList, List.reverse_reverse, List.takeWhile_eq_nil_iff]
  intro hpos
  have hhead := List.dropWhile_get_zero_not (· == '/') url.toList.reverse hpos
  exact hhead

/-- **One slash** stands between the URL of the API and a joined path. -/
theorem slashesBetween_urlBase_joinPath (options : Options) (pieces : List String) :
    slashesBetween options.resolve.urlBase (joinPath pieces) = ['/'] := by
  have hbase := takeWhile_stripSlashes (choose options.apiUrl defaultApiUrl)
  rw [slashesBetween, Options.resolve, hbase, (isNormal_joinPath pieces).takeWhile_slash]
  rfl

/-- **Joining paths gives a normal form.**  A joined path starts with a slash, has no two in a row and
ends with one only if it is the root, and its segments are those of its pieces, in order.  Joining it
again changes nothing, and pieces can be joined in two groups first.  So the path of a method is the
path of the class, or for a prototype method that of the instance, joined with that of the route; and
between the URL of the API, whatever it is, and the path of a method there is one slash. -/
theorem joined_paths_are_normal :
    (∀ pieces, IsNormal (joinPath pieces).toList ∧
      segments (joinPath pieces) = pieces.flatMap segments ∧
      joinPath [joinPath pieces] = joinPath pieces) ∧
    (∀ first rest, joinPath (first ++ rest) = joinPath [joinPath first, joinPath rest]) ∧
    (∀ m method route, actionPath m method route =
      joinPath [if method.isStatic then m.httpPath else resourcePath m, route.path]) ∧
    ∀ options m method route,
      slashesBetween (Options.resolve options).urlBase (actionPath m method route) = ['/'] := by
  refine ⟨fun pieces => ⟨isNormal_joinPath pieces, segments_joinPath pieces,
    joinPath_joinPath pieces⟩, joinPath_append, actionPath_eq_joinPath, ?_⟩
  intro options m method route
  exact slashesBetween_urlBase_joinPath options _

end Generation
end RestBindings
