import Dictation.Vocabulary.WordList
/-!
# The built-in vocabulary

Common English and programming words, used when no other vocabulary is configured.
-/
namespace Dictation.WordList

def englishWords : Text := "
  a about add address after age all also an and any as at back be because but by can come
  could day do even first for from get give go good have he her here him his how i if in into
  is it its just know like look make me most move my new no not now of on one only or other
  our out over people run say see she shot so some take than that the their them then there
  these they think this those time to together two up us use want way we well what when which
  who will with work would year you your"

def programmingWords : Text := "
  args array async attribute await boolean build building callback class compile config count
  debug def delta deploy dict elif else error exception export false function generate import
  index init integer item key len list main method name none object parameter parse print
  promise reference result return self string test true type value variable version while
  window yield"

def builtIn : WordList := ofWords (Text.words englishWords ++ Text.words programmingWords)

end Dictation.WordList
