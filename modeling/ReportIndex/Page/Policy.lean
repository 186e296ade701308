import ReportIndex.Asset
import ReportIndex.Text.Replace

/-!
Contract: the content security policy of a page.

Owns:
- the text of the policy that pages usually have;
- the one difference between pages: plain `http:` images are allowed exactly
  where the asset root is at such an origin.

Does not own: where the policy stands in a page, and how its text is read.
-/

namespace ReportIndex.Page

/-- The policy of a page whose illustrations are at no plain origin. -/
def usualPolicyText : String :=
  "default-src 'self'; img-src 'self' https: data:; style-src 'self' 'unsafe-inline'; "
    ++ "script-src 'self' 'unsafe-inline'; connect-src 'none'; font-src 'self' data:;"

/-- The policy of a page whose illustrations are under `root`: the usual one, widened to
allow `http:` images where the root is at a plain origin. -/
def policyText (root : AssetRoot) : String :=
  if root.isPlainHttp then
    String.ofList
      (Text.replaceFirst "img-src 'self' https:".toList "img-src 'self' http: https:".toList
        usualPolicyText.toList)
  else usualPolicyText

end ReportIndex.Page
