namespace LandingPage.Brand

def name : String := "Gardbase"

def tagline : String := "The GDPR-native database that protects by design."

def copyright : String := "© 2025 QodeSrl - Gardbase. All rights reserved."

def companyAddress : String := "https://qodesrl.com/"

def logoPath : String := "/assets/logo.svg"

def whiteLogoPath : String := "/assets/logo-white.svg"

def logoText : String := name ++ " Logo"

end LandingPage.Brand
