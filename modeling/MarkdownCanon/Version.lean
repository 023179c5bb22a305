namespace MarkdownCanon

def version : String := "0.1.0"

end MarkdownCanon
