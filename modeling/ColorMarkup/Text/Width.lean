import ColorMarkup.Text.Cluster
import ColorMarkup.Unicode.DoubleWidth

/-!
# Display width

How many columns of a terminal a text takes up: two for a cluster that holds a double-width
character or asks to be shown as a picture, and one for every other cluster.
-/

namespace ColorMarkup.Text

/-- The variation selector that asks for a picture. -/
def pictureSelector : Char := '\ufe0f'

/-- The columns that one cluster takes up. -/
def clusterWidth (cluster : Text) : Nat :=
  if cluster.any fun c => c == pictureSelector || Unicode.isDoubleWidth c then 2 else 1

/-- The columns that a text takes up. -/
def displayWidth (text : Text) : Nat :=
  (text.clusters.map clusterWidth).foldr (· + ·) 0

end ColorMarkup.Text
